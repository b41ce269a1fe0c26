import EdgeDeviceCore.Platform.CString
import EdgeDeviceCore.Platform.Errno

/-!
# The choice of the client certificate and key

`get_cert_key_path` lists a directory and takes the first entry whose name contains `_cert.pem` or
`_key.pem`. The documented setup has one name that ends with each of them. A name that contains
a suffix elsewhere, such as that of a backup, is taken instead when it is listed earlier.
-/

open EdgeDeviceCore.Platform

namespace EdgeDeviceCore.Esf

/-- The keys of `enum config_key` that are read from files. -/
inductive ClientKey where
  | mqttTlsClientCert | mqttTlsClientKey
deriving DecidableEq, Repr

def ClientKey.suffix : ClientKey → CString
  | .mqttTlsClientCert => "_cert.pem".toList
  | .mqttTlsClientKey => "_key.pem".toList

/-- `MQTT_TLS_CLIENT_CERT_KEY_DEFAULT_DIR`. -/
def mqttTlsClientCertKeyDefaultDir : CString := "/etc/evp".toList

/-- What one call of `get_cert_key_path` is answered. -/
structure PathAnswers where
  /-- The value of `EVP_CERT_KEY_DIR_PATH`. -/
  getenv : Option CString
  /-- The names that `readdir` returns, in order, if `opendir` succeeds. -/
  opendir : Option (List CString)
  asprintf : Bool
deriving DecidableEq, Repr

def PathAnswers.dirPath (answers : PathAnswers) : CString :=
  answers.getenv.getD mqttTlsClientCertKeyDefaultDir

/-- `"%s/%s"`. -/
def entryPath (dirPath name : CString) : CString := dirPath ++ '/' :: name

section

variable [Errno]

/-- The loop over `readdir`. -/
def scanDirectory (answers : PathAnswers) (suffix : CString) : List CString → ℤ × Option CString
  | [] => (-Errno.value .ENOENT, none)
  | name :: names =>
      if (strstr name suffix).isSome then
        if answers.asprintf then (0, some (entryPath answers.dirPath name))
        else (-Errno.value .ENOMEM, none)
      else scanDirectory answers suffix names

/-- What `get_cert_key_path` returns, and the path that it stores. -/
def getCertKeyPath (answers : PathAnswers) (key : ClientKey) : ℤ × Option CString :=
  match answers.opendir with
  | none => (-Errno.value ErrnoName.EIO, none)
  | some names => scanDirectory answers key.suffix names

end

/-! ## Entries and suffixes -/

/-- The name contains the suffix without ending with it. -/
def Stray (suffix name : CString) : Prop := suffix <:+: name ∧ ¬ suffix <:+ name

/-- Every stray name is listed after one that ends with the suffix. -/
def StraysListedLater (suffix : CString) (names : List CString) : Prop :=
  ∀ before name after, names = before ++ name :: after → Stray suffix name →
    ∃ earlier ∈ before, suffix <:+ earlier

/-- The only entry whose name ends with the suffix. -/
def OnlyEntry (suffix : CString) (names : List CString) (name : CString) : Prop :=
  names.filter (suffix.isSuffixOf ·) = [name]

instance (suffix name : CString) (names : List CString) : Decidable (OnlyEntry suffix names name) :=
  inferInstanceAs (Decidable (_ = _))

/-- The documented setup. -/
def Documented (names : List CString) : Prop :=
  ∀ key : ClientKey, ∃ name, OnlyEntry key.suffix names name

section Entries

variable {suffix name : CString} {names : List CString}

theorem OnlyEntry.mem (h : OnlyEntry suffix names name) : name ∈ names ∧ suffix <:+ name := by
  have hmem : name ∈ names.filter (suffix.isSuffixOf ·) := h ▸ List.mem_singleton_self name
  rw [List.mem_filter, List.isSuffixOf_iff_suffix] at hmem
  exact hmem

theorem OnlyEntry.eq_of_suffix {other : CString} (h : OnlyEntry suffix names name)
    (hmem : other ∈ names) (hsuffix : suffix <:+ other) : other = name := by
  have hfiltered : other ∈ names.filter (suffix.isSuffixOf ·) :=
    List.mem_filter.mpr ⟨hmem, List.isSuffixOf_iff_suffix.mpr hsuffix⟩
  rwa [h, List.mem_singleton] at hfiltered

/-- The first name that contains the suffix. -/
def firstContaining (suffix : CString) (names : List CString) : Option CString :=
  names.find? fun name ↦ (strstr name suffix).isSome

theorem firstContaining_eq_none_iff :
    firstContaining suffix names = none ↔ ∀ name ∈ names, ¬ suffix <:+: name := by
  simp only [firstContaining, List.find?_eq_none, strstr_isSome_iff]

theorem firstContaining_eq_some_iff :
    firstContaining suffix names = some name ↔
      suffix <:+: name ∧ ∃ before after, names = before ++ name :: after ∧
        ∀ earlier ∈ before, ¬ suffix <:+: earlier := by
  simp only [firstContaining, List.find?_eq_some_iff_append, Bool.not_eq_true', ← Bool.not_eq_true,
    strstr_isSome_iff]

theorem mem_of_firstContaining (h : firstContaining suffix names = some name) : name ∈ names :=
  List.mem_of_find?_eq_some h

/-- The first name that contains the suffix ends with it exactly when strays are listed later. -/
theorem suffix_of_firstContaining_iff :
    (∀ name, firstContaining suffix names = some name → suffix <:+ name) ↔
      StraysListedLater suffix names := by
  constructor
  · intro h before name after hnames hstray
    have hsplit : firstContaining suffix names =
        (firstContaining suffix before).or (firstContaining suffix (name :: after)) := by
      rw [hnames, firstContaining, List.find?_append]
      rfl
    cases hbefore : firstContaining suffix before with
    | some earlier =>
        rw [hbefore, Option.some_or] at hsplit
        exact ⟨earlier, mem_of_firstContaining hbefore, h earlier hsplit⟩
    | none =>
        have hname : firstContaining suffix (name :: after) = some name :=
          List.find?_cons_of_pos (strstr_isSome_iff.mpr hstray.1)
        rw [hbefore, Option.none_or, hname] at hsplit
        exact absurd (h name hsplit) hstray.2
  · intro h name hfirst
    obtain ⟨hcontains, before, after, hnames, hbefore⟩ := firstContaining_eq_some_iff.mp hfirst
    by_contra hends
    obtain ⟨earlier, hmem, hearlier⟩ := h before name after hnames ⟨hcontains, hends⟩
    exact hbefore earlier hmem hearlier.isInfix

end Entries

/-! ## What is selected -/

section Selection

variable [Errno] {answers : PathAnswers} {suffix name : CString} {names : List CString}

theorem scanDirectory_of_none (h : firstContaining suffix names = none) :
    scanDirectory answers suffix names = (-Errno.value .ENOENT, none) := by
  induction names with
  | nil => rfl
  | cons other names ih =>
      rw [firstContaining, List.find?_cons] at h
      rw [scanDirectory]
      cases hother : (strstr other suffix).isSome with
      | true => simp [hother] at h
      | false =>
          rw [hother] at h
          exact ih h

theorem scanDirectory_of_some (h : firstContaining suffix names = some name) :
    scanDirectory answers suffix names =
      if answers.asprintf then (0, some (entryPath answers.dirPath name))
      else (-Errno.value .ENOMEM, none) := by
  induction names with
  | nil => cases h
  | cons other names ih =>
      rw [firstContaining, List.find?_cons] at h
      rw [scanDirectory]
      cases hother : (strstr other suffix).isSome with
      | true =>
          rw [hother] at h
          rw [if_pos rfl, Option.some.inj h]
      | false =>
          rw [hother] at h
          exact ih h

/-- The choice of the documented setup: by the end of the name alone. -/
structure SelectsBySuffix (answers : PathAnswers) (names : List CString) : Prop where
  documented : answers.asprintf = true → Documented names → ∀ key name,
    OnlyEntry key.suffix names name →
      getCertKeyPath answers key = (0, some (entryPath answers.dirPath name))
  missing : ∀ key : ClientKey, (∀ name ∈ names, ¬ key.suffix <:+ name) →
    getCertKeyPath answers key = (-Errno.value .ENOENT, none)

/-- The only entry with the suffix is selected exactly when no stray name is listed before it. -/
theorem selects_onlyEntry_iff (hasprintf : answers.asprintf = true)
    (honly : OnlyEntry suffix names name) :
    scanDirectory answers suffix names = (0, some (entryPath answers.dirPath name)) ↔
      StraysListedLater suffix names := by
  obtain ⟨hmem, hends⟩ := honly.mem
  rw [← suffix_of_firstContaining_iff]
  cases hfirst : firstContaining suffix names with
  | none => exact absurd hends.isInfix (firstContaining_eq_none_iff.mp hfirst name hmem)
  | some first =>
      rw [scanDirectory_of_some hfirst, if_pos hasprintf]
      constructor
      · intro heq other hother
        have hpath : entryPath answers.dirPath first = entryPath answers.dirPath name :=
          Option.some.inj (Prod.ext_iff.mp heq).2
        have hname : first = name := List.tail_eq_of_cons_eq (List.append_cancel_left hpath)
        rwa [← Option.some.inj hother, hname]
      · intro h
        rw [honly.eq_of_suffix (mem_of_firstContaining hfirst) (h first rfl)]

/-- Where no name ends with the suffix, nothing is selected exactly when there is no stray name. -/
theorem selects_nothing_iff :
    scanDirectory answers suffix names = (-Errno.value .ENOENT, none) ↔
      ∀ name ∈ names, ¬ suffix <:+: name := by
  rw [← firstContaining_eq_none_iff]
  constructor
  · intro h
    cases hfirst : firstContaining suffix names with
    | none => rfl
    | some first =>
        rw [scanDirectory_of_some hfirst] at h
        split at h
        · exact absurd (Prod.ext_iff.mp h).1.symm (Errno.neg_value_ne_zero _)
        · have hvalue : Errno.value .ENOMEM = Errno.value .ENOENT :=
            neg_inj.mp (Prod.ext_iff.mp h).1
          exact absurd (Errno.value_inj.mp hvalue) nofun
  · exact scanDirectory_of_none

/-- Files are selected by suffix exactly when a name that contains a suffix without ending with it
is listed after the one that ends with it, if there is one, and is absent otherwise. -/
theorem selectsBySuffix_iff (getenv : Option CString) (names : List CString) (asprintf : Bool) :
    SelectsBySuffix ⟨getenv, some names, asprintf⟩ names ↔
      (asprintf = true → Documented names → ∀ key : ClientKey,
        StraysListedLater key.suffix names) ∧
      ∀ key : ClientKey, (∀ name ∈ names, ¬ key.suffix <:+ name) →
        ∀ name ∈ names, ¬ Stray key.suffix name := by
  have hselected (key : ClientKey) : getCertKeyPath ⟨getenv, some names, asprintf⟩ key =
      scanDirectory ⟨getenv, some names, asprintf⟩ key.suffix names := rfl
  constructor
  · intro h
    constructor
    · intro hasprintf hdocumented key
      obtain ⟨name, honly⟩ := hdocumented key
      exact (selects_onlyEntry_iff hasprintf honly).mp
        (h.documented hasprintf hdocumented key name honly)
    · intro key hnone name hmem hstray
      exact selects_nothing_iff.mp (h.missing key hnone) name hmem hstray.1
  · intro h
    constructor
    · intro hasprintf hdocumented key name honly
      rw [hselected, selects_onlyEntry_iff hasprintf honly]
      exact h.1 hasprintf hdocumented key
    · intro key hnone
      rw [hselected, selects_nothing_iff]
      intro name hmem hcontains
      exact h.2 key hnone name hmem ⟨hcontains, hnone name hmem⟩

end Selection

/-- A directory with a client certificate, its backup, and a client key. -/
def listingWithBackup : List CString :=
  ["dev_cert.pem.bak".toList, "dev_cert.pem".toList, "dev_key.pem".toList]

def ClientKey.listed : ClientKey → CString
  | .mqttTlsClientCert => "dev_cert.pem".toList
  | .mqttTlsClientKey => "dev_key.pem".toList

theorem onlyEntry_listed (key : ClientKey) :
    OnlyEntry key.suffix listingWithBackup key.listed := by
  cases key <;> decide +kernel

/-- The backup is selected as the certificate. -/
theorem not_selectsBySuffix_listingWithBackup :
    ¬ @SelectsBySuffix Errno.linux ⟨none, some listingWithBackup, true⟩ listingWithBackup := by
  intro h
  have hdocumented : Documented listingWithBackup := fun key ↦ ⟨_, onlyEntry_listed key⟩
  have hselected := @SelectsBySuffix.documented Errno.linux _ _ h rfl hdocumented
    .mqttTlsClientCert _ (onlyEntry_listed .mqttTlsClientCert)
  revert hselected
  decide +kernel

end EdgeDeviceCore.Esf
