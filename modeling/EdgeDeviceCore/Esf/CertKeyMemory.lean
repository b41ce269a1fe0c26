import EdgeDeviceCore.Esf.Memory
import EdgeDeviceCore.Esf.ReadConfig

/-!
# The descriptors behind the client certificate and key

`get_cert_key_path` and `read_cert_key` with the directory, the path and the descriptor that they
acquire and release. What they compute is what the functions without memory compute, and nothing is
held afterwards. A failed `asprintf` may leave anything in its pointer, which is then freed: only
where it leaves `NULL` are the paths through it safe.
-/

open EdgeDeviceCore.Platform EdgeDeviceCore.Data
open EdgeDeviceCore.Semantics.Resources

namespace EdgeDeviceCore.Esf.Memory

section

variable [Errno]

/-- The loop over `readdir`. The last argument is what a failed `asprintf` leaves. -/
def scanDirectory (answers : PathAnswers) (suffix : CString) (dir : Handle Resource)
    (left : Option OwnedString) : List CString → Program Resource (ℤ × Option OwnedString)
  | [] => do
      use dir
      pure (-Errno.value .ENOENT, none)
  | name :: names => do
      use dir
      if (strstr name suffix).isSome then
        match ← tryAcquire .block answers.asprintf with
        | some path => pure (0, some ⟨path, entryPath answers.dirPath name⟩)
        | none => pure (-Errno.value .ENOMEM, left)
      else scanDirectory answers suffix dir left names

def getCertKeyPath (answers : PathAnswers) (left : Option OwnedString) (key : ClientKey) :
    Program Resource (ℤ × Option OwnedString) :=
  match answers.opendir with
  | none => pure (-Errno.value ErrnoName.EIO, none)
  | some names => do
      let dir ← acquire .directory
      let result ← scanDirectory answers key.suffix dir left names
      release dir
      pure result

/-- `open` of the path, `read` and `close`. -/
def readFile (answers : ReadConfig.CertKeyAnswers) (path : OwnedString) (buffer : Buffer Char)
    (bufSize : ℕ) : Program Resource (ℤ × Buffer Char) := do
  use path.pointer
  match answers.file path.text with
  | .unopenable => pure (-Errno.value ErrnoName.EIO, buffer)
  | .unreadable => do
      let fd ← acquire .descriptor
      use fd
      release fd
      pure (-Errno.value ErrnoName.EIO, buffer)
  | .content content => do
      let fd ← acquire .descriptor
      use fd
      let bytes := content.take (bufSize - 1)
      let buffer := buffer.copy 0 bytes
      release fd
      if bytes.length = 0 then pure (-Errno.value ErrnoName.EIO, buffer)
      else pure (0, buffer.store (bufSize - 1) ReadConfig.nul)

def readCertKey (answers : ReadConfig.CertKeyAnswers) (left : Option OwnedString)
    (key : ClientKey) (buffer : Buffer Char) (bufSize : ℕ) :
    Program Resource (ℤ × Buffer Char) := do
  let (ret, certKeyPath) ← getCertKeyPath answers.path left key
  if ret ≠ 0 then
    free (certKeyPath.map OwnedString.pointer)
    pure (ret, buffer)
  else
    match certKeyPath with
    | none => pure (-Errno.value ErrnoName.EIO, buffer)
    | some path => do
        let result ← readFile answers path buffer bufSize
        free path.pointer
        pure result

/-! ### What is held -/

/-- A call comes to an `asprintf` that fails. -/
def FailedAsprintf (answers : PathAnswers) (key : ClientKey) : Prop :=
  ∃ names name, answers.opendir = some names ∧
    firstContaining key.suffix names = some name ∧ answers.asprintf = false

/-- The path is the one that is selected, and owned. -/
def Selects (answers : PathAnswers) (key : ClientKey) (result : ℤ × Option OwnedString)
    (own : Multiset (Handle Resource)) : Prop :=
  (result.1, result.2.map OwnedString.text) = Esf.getCertKeyPath answers key ∧
    own = owned (result.2.map OwnedString.pointer)

variable {answers : PathAnswers} {left : Option OwnedString}

theorem triple_scanDirectory {suffix : CString} {dir : Handle Resource} {names : List CString}
    (hleft : ∀ name, firstContaining suffix names = some name → answers.asprintf = false →
      left = none) :
    Triple {dir} (scanDirectory answers suffix dir left names) fun result rest ↦
      (result.1, result.2.map OwnedString.text) = Esf.scanDirectory answers suffix names ∧
        rest = owned (result.2.map OwnedString.pointer) + {dir} := by
  induction names with
  | nil => exact Triple.use_bind (by simp) (Triple.pure ⟨rfl, by simp⟩)
  | cons name names ih =>
      rw [scanDirectory, Esf.scanDirectory]
      apply Triple.use_bind (by simp)
      cases hname : (strstr name suffix).isSome with
      | false =>
          apply ih
          intro other hother
          apply hleft other
          rw [firstContaining, List.find?_cons, hname]
          exact hother
      | true =>
          have hfirst : firstContaining suffix (name :: names) = some name := by
            rw [firstContaining, List.find?_cons, hname]
          apply Triple.tryAcquire_bind
          intro pointer hpointer
          cases pointer with
          | some path =>
              have hasprintf : answers.asprintf = true := hpointer.symm
              rw [if_pos rfl, if_pos hasprintf]
              exact Triple.pure ⟨rfl, add_comm _ _⟩
          | none =>
              have hasprintf : answers.asprintf = false := hpointer.symm
              rw [hleft name hfirst hasprintf, if_pos rfl, hasprintf]
              exact Triple.pure ⟨rfl, by simp⟩

theorem triple_getCertKeyPath {key : ClientKey} (hleft : FailedAsprintf answers key → left = none) :
    Triple 0 (getCertKeyPath answers left key) (Selects answers key) := by
  rw [getCertKeyPath]
  cases hopendir : answers.opendir with
  | none =>
      apply Triple.pure
      rw [Selects, Esf.getCertKeyPath, hopendir]
      exact ⟨rfl, rfl⟩
  | some names =>
      apply Triple.acquire_bind
      intro dir
      rw [zero_add]
      apply (triple_scanDirectory fun name hfirst hasprintf ↦
        hleft ⟨names, name, hopendir, hfirst, hasprintf⟩).bind
      rintro result rest ⟨hresult, rfl⟩
      apply Triple.release_bind
      apply Triple.pure
      rw [Selects, Esf.getCertKeyPath, hopendir]
      exact ⟨hresult, rfl⟩

theorem triple_readFile {answers : ReadConfig.CertKeyAnswers} {path : OwnedString}
    {buffer : Buffer Char} {bufSize : ℕ} :
    Triple {path.pointer} (readFile answers path buffer bufSize) fun result rest ↦
      rest = {path.pointer} ∧ result =
        match answers.file path.text with
        | .content content =>
            if (content.take (bufSize - 1)).length = 0 then
              (-Errno.value ErrnoName.EIO, buffer.copy 0 (content.take (bufSize - 1)))
            else (0, (buffer.copy 0 (content.take (bufSize - 1))).store (bufSize - 1)
              ReadConfig.nul)
        | _ => (-Errno.value ErrnoName.EIO, buffer) := by
  apply Triple.use_bind (by simp)
  cases answers.file path.text with
  | unopenable => exact Triple.pure ⟨rfl, rfl⟩
  | unreadable =>
      apply Triple.acquire_bind
      intro fd
      apply Triple.use_bind (by simp)
      apply Triple.release_bind
      exact Triple.pure ⟨rfl, rfl⟩
  | content content =>
      apply Triple.acquire_bind
      intro fd
      apply Triple.use_bind (by simp)
      apply Triple.release_bind
      dsimp only
      split_ifs
      · exact Triple.pure ⟨rfl, rfl⟩
      · exact Triple.pure ⟨rfl, rfl⟩

/-- Whatever happens to the file, the path and the descriptor are given back. -/
theorem triple_readCertKey {answers : ReadConfig.CertKeyAnswers} {key : ClientKey}
    (buffer : Buffer Char) (bufSize : ℕ) (hleft : FailedAsprintf answers.path key → left = none) :
    Triple 0 (readCertKey answers left key buffer bufSize) fun result rest ↦
      result = ReadConfig.readCertKey answers key buffer bufSize ∧ rest = 0 := by
  apply (triple_getCertKeyPath hleft).bind
  rintro ⟨ret, certKeyPath⟩ rest ⟨hselected, rfl⟩
  dsimp only at hselected ⊢
  rw [ReadConfig.readCertKey, ← hselected]
  by_cases hret : ret ≠ 0
  · rw [if_pos hret, ← zero_add (owned _)]
    apply Triple.releaseAny_bind
    exact Triple.pure ⟨(if_pos hret).symm, rfl⟩
  · rw [if_neg hret]
    cases certKeyPath with
    | none => exact Triple.pure ⟨(if_neg hret).symm, rfl⟩
    | some path =>
        apply triple_readFile.bind
        rintro result rest ⟨rfl, hresult⟩
        rw [← zero_add {_}]
        apply triple_free
        apply Triple.pure
        refine ⟨?_, rfl⟩
        dsimp only
        rw [hresult, if_neg hret, Option.map_some, Option.map_some]
        cases answers.file path.text with
        | unopenable => rfl
        | unreadable => rfl
        | content content => rfl

/-! ### A pointer that is left behind -/

theorem run_scanDirectory_failed {suffix name : CString} {dir : Handle Resource}
    {names : List CString} {ledger : Ledger Resource} (hdir : dir ∈ ledger.held)
    (hfirst : firstContaining suffix names = some name) (hasprintf : answers.asprintf = false) :
    (scanDirectory answers suffix dir left names).run ledger =
      some ((-Errno.value .ENOMEM, left), ledger) := by
  have huse : (use dir).run ledger = some ((), ledger) := if_pos hdir
  induction names with
  | nil => cases hfirst
  | cons other names ih =>
      rw [scanDirectory, StateT.run_bind, huse]
      rw [firstContaining, List.find?_cons] at hfirst
      cases hother : (strstr other suffix).isSome with
      | false =>
          rw [hother] at hfirst
          exact ih hfirst
      | true =>
          rw [hasprintf]
          rfl

/-- A failed `asprintf` gives back the directory and what it left. -/
theorem run_getCertKeyPath_failed {key : ClientKey} (h : FailedAsprintf answers key)
    (left : Option OwnedString) (ledger : Ledger Resource) :
    ∃ after, (getCertKeyPath answers left key).run ledger =
        some ((-Errno.value .ENOMEM, left), after) ∧ after.held = ledger.held := by
  obtain ⟨names, name, hopendir, hfirst, hasprintf⟩ := h
  have hdir : ⟨.directory, ledger.next⟩ ∈ (ledger.acquire Resource.directory).held :=
    ledger.mem_acquire .directory
  refine ⟨(ledger.acquire .directory).release ⟨.directory, ledger.next⟩, ?_, ?_⟩
  · have hacquire : (acquire Resource.directory).run ledger =
        some (⟨.directory, ledger.next⟩, ledger.acquire .directory) := rfl
    have hrelease : (release ⟨Resource.directory, ledger.next⟩).run (ledger.acquire .directory) =
        some ((), (ledger.acquire .directory).release ⟨.directory, ledger.next⟩) := if_pos hdir
    rw [getCertKeyPath, hopendir]
    simp only [StateT.run_bind, hacquire, Option.bind_eq_bind, Option.bind_some,
      run_scanDirectory_failed hdir hfirst hasprintf, hrelease]
    rfl
  · exact ledger.held_release_acquire .directory

/-- A pointer that is not held is freed all the same. -/
theorem run_readCertKey_failed {answers : ReadConfig.CertKeyAnswers} {key : ClientKey}
    (h : FailedAsprintf answers.path key) {left : OwnedString} {ledger : Ledger Resource}
    (hleft : left.pointer ∉ ledger.held) (buffer : Buffer Char) (bufSize : ℕ) :
    (readCertKey answers (some left) key buffer bufSize).run ledger = none := by
  obtain ⟨after, hrun, hheld⟩ := run_getCertKeyPath_failed h (some left) ledger
  have hfree : (free (some left.pointer)).run after = none :=
    run_release_of_notMem (hheld ▸ hleft)
  rw [readCertKey, StateT.run_bind, hrun]
  simp only [Option.bind_eq_bind, Option.bind_some]
  rw [if_pos (Errno.neg_value_ne_zero _), StateT.run_bind, Option.map_some, hfree]
  rfl

end

end EdgeDeviceCore.Esf.Memory
