import EdgeDeviceCore.Psm.KeyList

/-!
# Spellings of keys

No two names of the list are the same and none of them repeats the prefix, so that no text is a name
of two keys, and all of them start with a letter, so that none is read as a number. Every documented
spelling of a key, the full name, the short one and the index, is therefore resolved to that key,
whatever names stand in front of it in the list.
-/

open EdgeDeviceCore.Platform

namespace EdgeDeviceCore.Psm

/-! ## Names by their characters -/

/-- A value for each of some literals. -/
def Images {Value : Type} (image : List Char → Value) (names : List String)
    (values : List Value) : Prop :=
  (names.map String.toList).map image = values

theorem Images.nil {Value : Type} {image : List Char → Value} : Images image [] [] := rfl

/-- A literal is made of its characters. -/
theorem Images.cons {Value : Type} {image : List Char → Value} {characters : List Char}
    {names : List String} {values : List Value} (h : Images image names values) :
    Images image (String.ofList characters :: names) (image characters :: values) := by
  unfold Images at h ⊢
  rw [List.map_cons, String.toList_ofList, List.map_cons, h]

/-- Different numbers for different texts. Numbers are compared faster than texts. -/
def textNumber (text : List Char) : ℕ :=
  text.foldl (fun number character ↦ number * 1114112 + character.toNat) 0

theorem nodup_keyList : keyList.Nodup := by
  have hnumbers : ∃ numbers, Images textNumber keyNames numbers ∧ numbers.Nodup := by
    apply Exists.intro
    apply And.intro
    · dsimp only [keyNames]
      repeat apply Images.cons
      exact Images.nil
    · decide +kernel
  obtain ⟨numbers, himages, hnodup⟩ := hnumbers
  rw [← himages] at hnodup
  exact List.Nodup.of_map _ hnodup

def repeatsPrefix (name : List Char) : Bool :=
  (keyPrefix ++ keyPrefix).isPrefixOf name

theorem not_repeatsPrefix {name : List Char} (h : name ∈ keyList) :
    repeatsPrefix name = false := by
  have hrepeats : ∃ repeated, Images repeatsPrefix keyNames repeated ∧ true ∉ repeated := by
    unfold repeatsPrefix
    rw [keyPrefix_eq]
    apply Exists.intro
    apply And.intro
    · dsimp only [keyNames]
      repeat apply Images.cons
      exact Images.nil
    · decide +kernel
  obtain ⟨repeated, himages, hnone⟩ := hrepeats
  apply Bool.eq_false_of_not_eq_true
  intro htrue
  rw [← himages] at hnone
  exact hnone (htrue ▸ List.mem_map_of_mem h)

theorem keyPrefix_isPrefixOf {name : List Char} (h : name ∈ keyList) :
    keyPrefix.isPrefixOf name = true := by
  have hgoes := goesOnWithLetter_keyList name h
  rw [goesOnWithLetter, Bool.and_eq_true] at hgoes
  exact hgoes.1

/-- A text is a name of one key at most. -/
theorem NamesKey.unique {key : List Char} {i j : ℕ} (hi : NamesKey key i) (hj : NamesKey key j) :
    i = j := by
  have hsame {name : List Char} {i j : ℕ} (hi : keyList[i]? = some name)
      (hj : keyList[j]? = some name) : i = j :=
    (List.getElem?_inj (List.getElem?_eq_some_iff.mp hi).1 nodup_keyList).mp (hi.trans hj.symm)
  -- A full name that is also a short one would repeat the prefix.
  have hmixed {i j : ℕ} (hfull : keyList[i]? = some key)
      (hshort : keyList[j]? = some (keyPrefix ++ key)) : False := by
    obtain ⟨rest, hrest⟩ := List.isPrefixOf_iff_prefix.mp
      (keyPrefix_isPrefixOf (List.mem_of_getElem? hfull))
    have hrepeats := not_repeatsPrefix (List.mem_of_getElem? hshort)
    have hprefix : repeatsPrefix (keyPrefix ++ key) = true := by
      rw [repeatsPrefix, ← hrest, ← List.append_assoc, List.isPrefixOf_iff_prefix]
      exact List.prefix_append _ rest
    exact Bool.false_ne_true (hrepeats.symm.trans hprefix)
  rcases hi with hi | hi
  · rcases hj with hj | hj
    · exact hsame hi hj
    · exact (hmixed hi hj).elim
  · rcases hj with hj | hj
    · exact (hmixed hj hi).elim
    · exact hsame hi hj

section

variable [PythonRelease]

theorem checkKey_of_namesKey {key : List Char} {i : ℕ} (h : NamesKey key i) :
    checkKey key = some (i : ℤ) := by
  rcases checkKey_cases key with ⟨j, hcheck, hname⟩ | ⟨-, hno⟩
  · rw [hcheck, hname.unique h]
  · exact absurd h (hno i)

/-- No name is read as a number. -/
theorem NamesKey.pythonInt_eq {key : List Char} {i : ℕ} (h : NamesKey key i) :
    pythonInt key = none := by
  obtain ⟨letter, rest, rfl, hletter⟩ := h.exists_cons
  exact pythonInt_of_isAlpha hletter rest

theorem checkKey_of_documented {spelling : IndexSpelling} {key : List Char} {i : ℕ}
    (h : Documented spelling key i) : checkKey key = some (i : ℤ) := by
  rcases h with hname | ⟨-, hspells⟩
  · exact checkKey_of_namesKey hname
  · have hint := spelling.pythonInt_eq key i hspells
    rcases checkKey_cases key with ⟨j, -, hname⟩ | ⟨hcheck, -⟩
    · cases hname.pythonInt_eq.symm.trans hint
    · rw [hcheck, hint]

/-- Every documented spelling of a key is resolved to the key: its full name, its short one, and
any text that `int` reads as its index. No text is a spelling of two keys, and no name is read as a
number. -/
theorem checkKey_documented (spelling : IndexSpelling) {key : List Char} {i : ℕ}
    (h : Documented spelling key i) :
    checkKey key = some (i : ℤ) ∧ (∀ j, Documented spelling key j → j = i) ∧
      (NamesKey key i → pythonInt key = none) := by
  refine ⟨checkKey_of_documented h, fun j hj ↦ ?_, NamesKey.pythonInt_eq⟩
  exact Int.ofNat_inj.mp
    (Option.some.inj ((checkKey_of_documented hj).symm.trans (checkKey_of_documented h)))

end

/-! ## The hub address -/

section

attribute [local instance] asciiRelease

theorem namesKey_hubUrl : NamesKey "EvpHubURL".toList 30 := by
  right
  decide +kernel

theorem pythonInt_hubUrl : pythonInt " +0_30 ".toList = some (30 : ℕ) := by
  decide +kernel

/-- The short name of the hub address and a spelling of its index. -/
theorem checkKey_documented_hubUrl :
    checkKey "EvpHubURL".toList = some (30 : ℕ) ∧ pythonInt "EvpHubURL".toList = none ∧
      checkKey " +0_30 ".toList = some (30 : ℕ) := by
  have hlt : 30 < keyList.length := by
    rw [length_keyList]
    decide
  have hname := checkKey_documented IndexSpelling.anyInt (.inl namesKey_hubUrl)
  exact ⟨hname.1, hname.2.2 namesKey_hubUrl,
    (checkKey_documented IndexSpelling.anyInt (.inr ⟨hlt, pythonInt_hubUrl⟩)).1⟩

end

end EdgeDeviceCore.Psm
