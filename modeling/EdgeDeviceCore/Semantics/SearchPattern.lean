import Mathlib.Computability.Language

/-!
# Patterns that are searched for in a text

A pattern is a sequence of items, each of which takes one symbol of a class, one or more, or any
number. Matching goes through the pattern and lists every text that can be left behind it. What it
finds is what the language of the pattern allows.
-/

open scoped Computability

namespace EdgeDeviceCore.Semantics.SearchPattern

variable {Symbol : Type}

/-! ## Patterns -/

inductive Item (Symbol : Type) where
  | one (allowed : Symbol → Bool)
  | plus (allowed : Symbol → Bool)
  | star (allowed : Symbol → Bool)

abbrev Pattern (Symbol : Type) := List (Item Symbol)

/-- A text that stands for itself. -/
def literal [DecidableEq Symbol] (text : List Symbol) : Pattern Symbol :=
  text.map fun symbol ↦ .one (· = symbol)

/-- The texts of one allowed symbol. -/
def single (allowed : Symbol → Bool) : Language Symbol :=
  {text | ∃ symbol, allowed symbol = true ∧ text = [symbol]}

def Item.language : Item Symbol → Language Symbol
  | .one allowed => single allowed
  | .plus allowed => single allowed * (single allowed)∗
  | .star allowed => (single allowed)∗

def language (pattern : Pattern Symbol) : Language Symbol := (pattern.map Item.language).prod

/-! ## Matching -/

def restsOfOne (allowed : Symbol → Bool) : List Symbol → List (List Symbol)
  | [] => []
  | symbol :: rest => if allowed symbol then [rest] else []

def restsOfStar (allowed : Symbol → Bool) : List Symbol → List (List Symbol)
  | [] => [[]]
  | symbol :: rest =>
      (symbol :: rest) :: if allowed symbol then restsOfStar allowed rest else []

def Item.rests : Item Symbol → List Symbol → List (List Symbol)
  | .one allowed, text => restsOfOne allowed text
  | .plus allowed, text => (restsOfOne allowed text).flatMap (restsOfStar allowed)
  | .star allowed, text => restsOfStar allowed text

/-- What can be left of a text behind a match at its start. -/
def rests : Pattern Symbol → List Symbol → List (List Symbol)
  | [], text => [text]
  | item :: items, text => (item.rests text).flatMap (rests items)

/-- Some match ends where the text ends. -/
def foundAtEnd (pattern : Pattern Symbol) (text : List Symbol) : Bool :=
  text.tails.any fun tail ↦ (rests pattern tail).any List.isEmpty

/-! ## What is matched -/

/-- What is left is the text without a text of the language. -/
def Leaves (taken : Language Symbol) (left : List Symbol → List (List Symbol)) : Prop :=
  ∀ text rest, rest ∈ left text ↔ ∃ matched ∈ taken, matched ++ rest = text

section Leaves

variable {first second : Language Symbol} {leftFirst leftSecond : List Symbol → List (List Symbol)}
  {allowed : Symbol → Bool} {text : List Symbol}

/-- One match behind another. -/
theorem Leaves.mul (hfirst : Leaves first leftFirst) (hsecond : Leaves second leftSecond) :
    Leaves (first * second) fun text ↦ (leftFirst text).flatMap leftSecond := by
  intro text rest
  simp only [List.mem_flatMap, hfirst text, hsecond _ rest, Language.mem_mul]
  constructor
  · rintro ⟨_, ⟨before, hbefore, rfl⟩, matched, hmatched, rfl⟩
    exact ⟨before ++ matched, ⟨before, hbefore, matched, hmatched, rfl⟩, List.append_assoc ..⟩
  · rintro ⟨_, ⟨before, hbefore, matched, hmatched, rfl⟩, rfl⟩
    exact ⟨matched ++ rest, ⟨before, hbefore, (List.append_assoc ..).symm⟩, matched, hmatched, rfl⟩

theorem leaves_nil : Leaves (1 : Language Symbol) fun text ↦ [text] := by
  intro text rest
  simp only [List.mem_singleton, Language.mem_one, exists_eq_left, List.nil_append]

theorem leaves_one : Leaves (single allowed) (restsOfOne allowed) := by
  intro text rest
  cases text with
  | nil =>
      apply iff_of_false List.not_mem_nil
      rintro ⟨_, ⟨symbol, -, rfl⟩, hnil⟩
      exact List.cons_ne_nil _ _ hnil
  | cons symbol tail =>
      rw [restsOfOne]
      constructor
      · intro hmem
        split_ifs at hmem with hallowed
        · obtain rfl := List.mem_singleton.mp hmem
          exact ⟨[symbol], ⟨symbol, hallowed, rfl⟩, rfl⟩
        · exact absurd hmem List.not_mem_nil
      · rintro ⟨_, ⟨other, hallowed, rfl⟩, heq⟩
        obtain ⟨rfl, rfl⟩ := List.cons.inj heq
        rw [if_pos hallowed]
        exact List.mem_singleton_self _

/-- Any number of symbols of a class. -/
theorem mem_kstar_single : text ∈ (single allowed)∗ ↔ ∀ symbol ∈ text, allowed symbol = true := by
  rw [Language.mem_kstar]
  constructor
  · rintro ⟨texts, rfl, htexts⟩ symbol hmem
    obtain ⟨part, hpart, hsymbol⟩ := List.mem_flatten.mp hmem
    obtain ⟨other, hallowed, rfl⟩ := htexts part hpart
    rwa [List.mem_singleton.mp hsymbol]
  · intro hall
    refine ⟨text.map ([·]), ?_, ?_⟩
    · rw [← List.flatMap_def, List.flatMap_singleton']
    · rintro _ hpart
      obtain ⟨symbol, hmem, rfl⟩ := List.mem_map.mp hpart
      exact ⟨symbol, hall symbol hmem, rfl⟩

theorem leaves_star : Leaves (single allowed)∗ (restsOfStar allowed) := by
  intro text rest
  simp only [mem_kstar_single]
  induction text with
  | nil => simp [restsOfStar]
  | cons symbol tail ih =>
      have hnone : (∃ matched : List Symbol, (∀ other ∈ matched, allowed other = true) ∧
          matched ++ rest = symbol :: tail) ↔
          rest = symbol :: tail ∨ allowed symbol = true ∧
            ∃ matched : List Symbol, (∀ other ∈ matched, allowed other = true) ∧
              matched ++ rest = tail := by
        constructor
        · rintro ⟨_ | ⟨other, matched⟩, hall, heq⟩
          · exact .inl heq
          · obtain ⟨rfl, htail⟩ := List.cons.inj heq
            rw [List.forall_mem_cons] at hall
            exact .inr ⟨hall.1, matched, hall.2, htail⟩
        · rintro (rfl | ⟨hallowed, matched, hall, rfl⟩)
          · exact ⟨[], fun other hmem ↦ absurd hmem List.not_mem_nil, rfl⟩
          · exact ⟨symbol :: matched, List.forall_mem_cons.mpr ⟨hallowed, hall⟩, rfl⟩
      rw [restsOfStar, List.mem_cons, hnone]
      split_ifs with hallowed
      · rw [ih, and_iff_right hallowed]
      · simp only [hallowed, List.not_mem_nil, false_and, Bool.false_eq_true]

theorem leaves_item (item : Item Symbol) : Leaves item.language item.rests := by
  cases item with
  | one allowed => exact leaves_one
  | plus allowed => exact leaves_one.mul leaves_star
  | star allowed => exact leaves_star

theorem leaves_rests (pattern : Pattern Symbol) : Leaves (language pattern) (rests pattern) := by
  induction pattern with
  | nil => exact leaves_nil
  | cons item items ih => exact (leaves_item item).mul ih

/-- Searching finds the texts that end with a text of the language. -/
theorem foundAtEnd_iff (pattern : Pattern Symbol) :
    foundAtEnd pattern text = true ↔ ∃ before, ∃ matched ∈ language pattern,
      before ++ matched = text := by
  have hends (tail : List Symbol) :
      (rests pattern tail).any List.isEmpty = true ↔ tail ∈ language pattern := by
    simp only [List.any_eq_true, List.isEmpty_iff, exists_eq_right, leaves_rests pattern tail,
      List.append_nil]
  simp only [foundAtEnd, List.any_eq_true, List.mem_tails, hends]
  constructor
  · rintro ⟨matched, ⟨before, rfl⟩, hmatched⟩
    exact ⟨before, matched, hmatched, rfl⟩
  · rintro ⟨before, matched, hmatched, rfl⟩
    exact ⟨matched, List.suffix_append .., hmatched⟩

end Leaves

/-! ## Sequences of patterns -/

theorem language_nil : language ([] : Pattern Symbol) = 1 := rfl

theorem language_append (first second : Pattern Symbol) :
    language (first ++ second) = language first * language second := by
  rw [language, List.map_append, List.prod_append]
  rfl

theorem language_cons (item : Item Symbol) (pattern : Pattern Symbol) :
    language (item :: pattern) = item.language * language pattern := by
  rw [language, List.map_cons, List.prod_cons]
  rfl

theorem mem_literal [DecidableEq Symbol] {text matched : List Symbol} :
    matched ∈ language (literal text) ↔ matched = text := by
  induction text generalizing matched with
  | nil => exact Language.mem_one matched
  | cons symbol text ih =>
      have hcons : literal (symbol :: text) = .one (· = symbol) :: literal text := rfl
      rw [hcons, language_cons, Language.mem_mul]
      simp only [ih, exists_eq_left]
      constructor
      · rintro ⟨_, ⟨other, hsame, rfl⟩, rfl⟩
        rw [of_decide_eq_true hsame]
        rfl
      · rintro rfl
        exact ⟨[symbol], ⟨symbol, decide_eq_true rfl, rfl⟩, rfl⟩

end EdgeDeviceCore.Semantics.SearchPattern
