import Mathlib

/-!
# Lexers that read a text once

A lexer reads a text from left to right. A symbol may close the token that was being read, so that
the reading of a text so far is a list of tokens and a state. Texts are lexed piece by piece, and a
run of symbols that a state collects is one piece.
-/

namespace EdgeDeviceCore.Data

structure Lexer (State Symbol Token : Type*) where
  initial : State
  /-- The tokens that a symbol closes, and what is read from there on. -/
  step : State → Symbol → Option (List Token × State)
  /-- The tokens that the end of the text closes. -/
  finish : State → Option (List Token)

namespace Lexer

variable {State Symbol Token : Type*} (lexer : Lexer State Symbol Token)

def scan : State → List Symbol → Option (List Token × State)
  | state, [] => some ([], state)
  | state, symbol :: rest => do
      let (closed, next) ← lexer.step state symbol
      let (tokens, last) ← scan next rest
      some (closed ++ tokens, last)

/-- The tokens of a text, or `none` where it is not lexed to its end. -/
def lex (text : List Symbol) : Option (List Token) :=
  (lexer.scan lexer.initial text).bind fun (tokens, last) ↦
    (lexer.finish last).map (tokens ++ ·)

/-- From one state, a text gives tokens and leads to another state. -/
def Scans (state : State) (text : List Symbol) (tokens : List Token) (last : State) : Prop :=
  lexer.scan state text = some (tokens, last)

namespace Scans

variable {lexer} {state middle last : State} {text later : List Symbol} {symbol : Symbol}
  {tokens laterTokens : List Token}

theorem nil : lexer.Scans state [] [] state :=
  rfl

theorem cons (hstep : lexer.step state symbol = some (tokens, middle))
    (hlater : lexer.Scans middle later laterTokens last) :
    lexer.Scans state (symbol :: later) (tokens ++ laterTokens) last := by
  rw [Scans, scan, hstep]
  simp only [Option.bind_eq_bind, Option.bind_some]
  rw [show lexer.scan middle later = some (laterTokens, last) from hlater, Option.bind_some]

theorem single (hstep : lexer.step state symbol = some (tokens, last)) :
    lexer.Scans state [symbol] tokens last := by
  have hcons := cons hstep (@nil _ _ _ lexer last)
  rwa [List.append_nil] at hcons

/-- A text is lexed piece by piece. -/
theorem append (htext : lexer.Scans state text tokens middle)
    (hlater : lexer.Scans middle later laterTokens last) :
    lexer.Scans state (text ++ later) (tokens ++ laterTokens) last := by
  induction text generalizing state tokens with
  | nil =>
      obtain ⟨rfl, rfl⟩ := Prod.mk.inj (Option.some.inj htext)
      exact hlater
  | cons symbol rest ih =>
      rw [Scans, scan] at htext
      obtain ⟨⟨closed, next⟩, hstep, htext⟩ := Option.bind_eq_some_iff.mp htext
      obtain ⟨⟨rested, reached⟩, hrest, htext⟩ := Option.bind_eq_some_iff.mp htext
      obtain ⟨rfl, rfl⟩ := Prod.mk.inj (Option.some.inj htext)
      rw [List.cons_append, List.append_assoc]
      exact cons hstep (ih hrest)

/-- A run of symbols that a state collects closes no token. -/
theorem collect {reading : List Symbol → State} (read : List Symbol)
    (h : ∀ read, ∀ symbol ∈ text,
      lexer.step (reading read) symbol = some ([], reading (read ++ [symbol]))) :
    lexer.Scans (reading read) text [] (reading (read ++ text)) := by
  induction text generalizing read with
  | nil =>
      rw [List.append_nil]
      exact nil
  | cons symbol rest ih =>
      have hstep := h read symbol (List.mem_cons_self ..)
      have hrest := ih (read ++ [symbol]) fun read other hmem ↦
        h read other (List.mem_cons_of_mem _ hmem)
      rw [List.append_assoc] at hrest
      exact cons hstep hrest

theorem lex_eq (htext : lexer.Scans lexer.initial text tokens last)
    (hfinish : lexer.finish last = some laterTokens) :
    lexer.lex text = some (tokens ++ laterTokens) := by
  rw [lex, show lexer.scan lexer.initial text = some (tokens, last) from htext]
  simp only [Option.bind_some, hfinish, Option.map_some]

end Scans

end Lexer

end EdgeDeviceCore.Data
