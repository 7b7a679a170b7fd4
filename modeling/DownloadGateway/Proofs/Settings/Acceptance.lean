import DownloadGateway.Proofs.Settings.Entries
import DownloadGateway.Proofs.Text.Decimal
/-!
# Which environments are accepted

`Fault` lists what can be wrong with an environment, each fault with the error that tells of it.
The errors have an order; settings are loaded if there is no fault, and otherwise the error is that
of the first fault. Each stage of loading finds one fault, or leaves an environment without faults
up to there (`FaultlessTo`).
-/

namespace DownloadGateway

/-- The place of an error in the order of the checks. -/
def SettingsError.rank : SettingsError → Nat
  | .invalidBackend _ => 0
  | .apiKeyFormat => 1
  | .invalidPort => 2
  | .missingSecret => 3
  | .shortSecret => 4
  | .zeroTtl => 5
  | .wildcardOrigin => 6
  | .shortKey _ => 7

namespace Settings

variable {env : Environment} {s : Settings} {e : SettingsError} {text : String} {pairs : List (String × String)}

/-! ## What an environment says -/

/-- A text in lower case. The names that it is compared with are of ASCII letters, and no letter
outside ASCII has one of these as its lower case. -/
def lowered (text : String) : String := String.ofList (text.toList.map Char.toLower)

/-- The environment is called production: in `ENVIRONMENT`, or else in `APP_ENV`. -/
def InProduction (env : Environment) : Prop :=
  ∃ name, (env.get? "ENVIRONMENT" = some name ∨ env.get? "ENVIRONMENT" = none ∧ env.get? "APP_ENV" = some name) ∧
    (lowered name = "production" ∨ lowered name = "prod")

/-- All origins are allowed: they are not listed, or one of those listed is a star. -/
def AllowsAll (env : Environment) : Prop :=
  env.get? "CORS_ORIGINS" = none ∨
    ∃ text, env.get? "CORS_ORIGINS" = some text ∧ ∃ part ∈ text.toList.splitOn ',', Text.trim part = ['*']

/-- What an environment must say for its settings to be accepted. -/
structure Acceptable (env : Environment) : Prop where
  backend : ∀ text, env.get? "STORAGE_BACKEND" = some text → lowered text = "local" ∨ lowered text = "memory"
  keys : ∀ text, env.get? "API_KEYS" = some text →
    ∃ pairs, ListsKeys text pairs ∧ ∀ pair ∈ pairs, 16 ≤ (Utf8.encode pair.2).length
  port : ∀ text, env.get? "PORT" = some text → ∃ n, Decimal.IsNumeral Decimal.max16 text.toList n
  secret : ∃ text, env.get? "TOKEN_SECRET" = some text ∧ 32 ≤ (Utf8.encode text).length
  ttl : ∀ text, env.get? "TOKEN_TTL_SECONDS" = some text → ¬Decimal.IsNumeral Decimal.max64 text.toList 0
  origins : ¬(InProduction env ∧ AllowsAll env)

/-- What can be wrong with an environment, and the error that tells of it. -/
inductive Fault (env : Environment) : SettingsError → Prop
  | backend {text : String} (h : env.get? "STORAGE_BACKEND" = some text)
    (hname : ¬(lowered text = "local" ∨ lowered text = "memory")) : Fault env (.invalidBackend text)
  | keys {text : String} (h : env.get? "API_KEYS" = some text) (hkeys : ∀ pairs, ¬ListsKeys text pairs) : Fault env .apiKeyFormat
  | port {text : String} (h : env.get? "PORT" = some text) (hport : ∀ n, ¬Decimal.IsNumeral Decimal.max16 text.toList n) :
    Fault env .invalidPort
  | noSecret (h : env.get? "TOKEN_SECRET" = none) : Fault env .missingSecret
  | shortSecret {text : String} (h : env.get? "TOKEN_SECRET" = some text) (hshort : (Utf8.encode text).length < 32) :
    Fault env .shortSecret
  | ttl {text : String} (h : env.get? "TOKEN_TTL_SECONDS" = some text)
    (hzero : Decimal.IsNumeral Decimal.max64 text.toList 0) : Fault env .zeroTtl
  | origins (hproduction : InProduction env) (hall : AllowsAll env) : Fault env .wildcardOrigin
  /-- The first key that is too short. -/
  | shortKey {text user key : String} {front back : List (String × String)} (h : env.get? "API_KEYS" = some text)
    (hkeys : ListsKeys text (front ++ (user, key) :: back))
    (hfront : ∀ pair ∈ front, 16 ≤ (Utf8.encode pair.2).length) (hshort : (Utf8.encode key).length < 16) :
    Fault env (.shortKey user)

/-! ## Faults -/

theorem ListsKeys.unique {pairs' : List (String × String)} (h : ListsKeys text pairs) (h' : ListsKeys text pairs') :
    pairs = pairs' := by
  rw [← readKeys_eq_ok_iff] at h h'
  exact Except.ok.inj (h.symm.trans h')

theorem isShortKey_eq_true_iff {key : String} : isShortKey key = true ↔ (Utf8.encode key).length < 16 := decide_eq_true_iff

theorem isShortKey_eq_false_iff {key : String} : isShortKey key = false ↔ 16 ≤ (Utf8.encode key).length :=
  decide_eq_false_iff_not.trans Nat.not_lt

/-- The first key of a list that is too short. -/
theorem find?_isShortKey_eq_some_iff {user key : String} :
    pairs.find? (isShortKey ·.2) = some (user, key) ↔
      (Utf8.encode key).length < 16 ∧ ∃ front back, pairs = front ++ (user, key) :: back ∧
        ∀ pair ∈ front, 16 ≤ (Utf8.encode pair.2).length := by
  rw [List.find?_eq_some_iff_append, isShortKey_eq_true_iff]
  simp only [Bool.not_eq_true', isShortKey_eq_false_iff, exists_and_right]

theorem find?_append_isShortKey {user key : String} {front back : List (String × String)}
    (hfront : ∀ pair ∈ front, 16 ≤ (Utf8.encode pair.2).length) (hshort : (Utf8.encode key).length < 16) :
    (front ++ (user, key) :: back).find? (isShortKey ·.2) = some (user, key) :=
  find?_isShortKey_eq_some_iff.2 ⟨hshort, front, back, rfl, hfront⟩

theorem find?_isShortKey_eq_none_iff :
    pairs.find? (isShortKey ·.2) = none ↔ ∀ pair ∈ pairs, 16 ≤ (Utf8.encode pair.2).length := by
  simp only [List.find?_eq_none, Bool.not_eq_true, isShortKey_eq_false_iff]

/-- An environment is acceptable if nothing is wrong with it. -/
theorem acceptable_iff : Acceptable env ↔ ∀ e, ¬Fault env e := by
  constructor
  · intro h e hfault
    cases hfault with
    | backend hget hname => exact hname (h.backend _ hget)
    | keys hget hkeys =>
      obtain ⟨pairs, hpairs, -⟩ := h.keys _ hget
      exact hkeys pairs hpairs
    | port hget hport =>
      obtain ⟨n, hn⟩ := h.port _ hget
      exact hport n hn
    | noSecret hget =>
      obtain ⟨text, hsome, -⟩ := h.secret
      simp [hget] at hsome
    | shortSecret hget hshort =>
      obtain ⟨text, hsome, hlong⟩ := h.secret
      rw [hget] at hsome
      cases hsome
      omega
    | ttl hget hzero => exact h.ttl _ hget hzero
    | origins hproduction hall => exact h.origins ⟨hproduction, hall⟩
    | shortKey hget hkeys hfront hshort =>
      obtain ⟨pairs, hpairs, hlong⟩ := h.keys _ hget
      have hkey := hlong _ (hpairs.unique hkeys ▸ List.mem_append_right _ (List.mem_cons_self ..))
      exact absurd hshort (Nat.not_lt.2 hkey)
  · intro h
    refine ⟨fun text hget => ?_, fun text hget => ?_, fun text hget => ?_, ?_, fun text hget hzero => ?_, fun ⟨hp, ha⟩ => ?_⟩
    · exact Decidable.byContradiction fun hname => h _ (.backend hget hname)
    · cases hread : readKeys text with
      | error e =>
        refine absurd (.keys hget fun pairs hpairs => ?_) (h .apiKeyFormat)
        rw [readKeys_eq_ok_iff.2 hpairs] at hread
        cases hread
      | ok pairs =>
        have hpairs := readKeys_eq_ok_iff.1 hread
        refine ⟨pairs, hpairs, ?_⟩
        -- If there were a short key, the first one would be a fault.
        rw [← find?_isShortKey_eq_none_iff, Option.eq_none_iff_forall_ne_some]
        intro (user, key) hfind
        obtain ⟨hshort, front, back, rfl, hfront⟩ := find?_isShortKey_eq_some_iff.1 hfind
        exact h _ (.shortKey hget hpairs hfront hshort)
    · exact Classical.byContradiction fun hport => h _ (.port hget (not_exists.1 hport))
    · cases hget : env.get? "TOKEN_SECRET" with
      | none => exact absurd (.noSecret hget) (h _)
      | some text => exact ⟨text, rfl, Nat.le_of_not_lt fun hshort => h _ (.shortSecret hget hshort)⟩
    · exact h _ (.ttl hget hzero)
    · exact h _ (.origins hp ha)

/-- No fault up to some place in the order of the checks. -/
def FaultlessTo (env : Environment) (k : Nat) : Prop := ∀ e, Fault env e → k ≤ e.rank

theorem FaultlessTo.succ {k : Nat} (h : FaultlessTo env k) (hno : ∀ e, Fault env e → e.rank ≠ k) :
    FaultlessTo env (k + 1) := fun e he => Nat.lt_of_le_of_ne (h e he) (hno e he).symm

/-! ## What is read -/

theorem ofName?_eq_none_iff : Backend.ofName? text = none ↔ ¬(lowered text = "local" ∨ lowered text = "memory") := by
  simp only [Backend.ofName?, Backend.name, ← lowered.eq_1]
  split
  · simp [*]
  · split <;> simp [*]

theorem readTtl_eq_zero_iff {setting : Option String} :
    readTtl setting = 0 ↔ ∃ text, setting = some text ∧ Decimal.IsNumeral Decimal.max64 text.toList 0 := by
  simp only [readTtl, ← Decimal.read?_eq_some_iff, ← Option.bind_eq_some_iff]
  cases setting.bind fun t => Decimal.read? Decimal.max64 t.toList <;> simp [defaultTtl]

theorem mem_origins_iff {setting : Option String} :
    "*" ∈ (entries (setting.getD "*")).map String.ofList ↔
      setting = none ∨ ∃ text, setting = some text ∧ ∃ part ∈ text.toList.splitOn ',', Text.trim part = ['*'] := by
  have hstar : ∀ text, "*" ∈ (entries text).map String.ofList ↔ ∃ part ∈ text.toList.splitOn ',', Text.trim part = ['*'] := by
    intro text
    have hinj : Function.Injective String.ofList := fun _ _ h => String.ofList_injective h
    rw [show "*" = String.ofList ['*'] from rfl, List.mem_map_of_injective hinj]
    simp [entries]
  cases setting with
  | none => simp only [true_or, iff_true]; decide
  | some text => simp [hstar]

theorem isProduction_iff
    (h : s.environment = ((env.get? "ENVIRONMENT").orElse fun _ => env.get? "APP_ENV").getD "development") :
    s.isProduction = true ↔ InProduction env := by
  simp only [isProduction, h, ← lowered.eq_1, Bool.or_eq_true, decide_eq_true_eq, InProduction]
  cases env.get? "ENVIRONMENT" with
  | some name => simp
  | none =>
    cases env.get? "APP_ENV" with
    | some name => simp
    | none => simp; decide

/-! ## Stage by stage -/

/-- A check finds the fault at its place in the order, if there is one, and no other. -/
def Checks {α : Type} (env : Environment) (k : Nat) (P : α → Prop) : Except SettingsError α → Prop
  | .ok a => (∀ e, Fault env e → e.rank ≠ k) ∧ P a
  | .error e => Fault env e ∧ e.rank = k

/-- Some checks up to a place in the order find the first fault before it, if there is one. -/
def Finds {α : Type} (env : Environment) (k : Nat) (P : α → Prop) : Except SettingsError α → Prop
  | .ok a => FaultlessTo env k ∧ P a
  | .error e => Fault env e ∧ FaultlessTo env e.rank

theorem Finds.bind {α β : Type} {k m : Nat} {P : α → Prop} {Q : β → Prop} {x : Except SettingsError α}
    {f : α → Except SettingsError β} (hx : Finds env k P x) (hf : ∀ a, P a → FaultlessTo env k → Finds env m Q (f a)) :
    Finds env m Q (x >>= f) := by
  cases x with
  | error e => exact hx
  | ok a => exact hf a hx.2 hx.1

theorem Checks.finds {α : Type} {k : Nat} {P : α → Prop} {x : Except SettingsError α} (hx : Checks env k P x)
    (hk : FaultlessTo env k) : Finds env (k + 1) P x := by
  cases x with
  | error e => exact ⟨hx.1, hx.2 ▸ hk⟩
  | ok a => exact ⟨hk.succ hx.1, hx.2⟩

theorem checks_readBackend (env : Environment) :
    Checks env 0 (fun _ => True) (readBackend (env.get? "STORAGE_BACKEND")) := by
  cases hget : env.get? "STORAGE_BACKEND" with
  | none =>
    refine ⟨fun e he => ?_, trivial⟩
    cases he with
    | backend hget' => simp [hget] at hget'
    | _ => simp [SettingsError.rank]
  | some text =>
    rw [readBackend]
    cases hname : Backend.ofName? text with
    | none => exact ⟨.backend hget (ofName?_eq_none_iff.1 hname), rfl⟩
    | some backend =>
      refine ⟨fun e he => ?_, trivial⟩
      cases he with
      | backend hget' hname' =>
        rw [hget] at hget'
        cases hget'
        simp [ofName?_eq_none_iff.2 hname'] at hname
      | _ => simp [SettingsError.rank]

theorem checks_readKeys (env : Environment) :
    Checks env 1 (fun pairs => readKeys ((env.get? "API_KEYS").getD "") = .ok pairs)
      (readKeys ((env.get? "API_KEYS").getD "")) := by
  cases hread : readKeys ((env.get? "API_KEYS").getD "") with
  | error e =>
    obtain rfl := of_readKeys_eq_error hread
    cases hget : env.get? "API_KEYS" with
    | none =>
      rw [hget] at hread
      cases hread
    | some text =>
      rw [hget] at hread
      refine ⟨.keys hget fun pairs hpairs => ?_, rfl⟩
      rw [Option.getD_some, readKeys_eq_ok_iff.2 hpairs] at hread
      cases hread
  | ok pairs =>
    refine ⟨fun e he => ?_, rfl⟩
    cases he with
    | keys hget hkeys =>
      rw [hget] at hread
      exact absurd (readKeys_eq_ok_iff.1 hread) (hkeys pairs)
    | _ => simp [SettingsError.rank]

theorem checks_readPort (env : Environment) : Checks env 2 (fun _ => True) (readPort (env.get? "PORT")) := by
  cases hget : env.get? "PORT" with
  | none =>
    refine ⟨fun e he => ?_, trivial⟩
    cases he with
    | port hget' => simp [hget] at hget'
    | _ => simp [SettingsError.rank]
  | some text =>
    rw [readPort]
    cases hread : Decimal.read? Decimal.max16 text.toList with
    | none =>
      refine ⟨.port hget fun n hn => ?_, rfl⟩
      rw [Decimal.read?_eq_some_iff.2 hn] at hread
      cases hread
    | some n =>
      refine ⟨fun e he => ?_, trivial⟩
      cases he with
      | port hget' hport =>
        rw [hget] at hget'
        cases hget'
        exact absurd (Decimal.read?_eq_some_iff.1 hread) (hport n)
      | _ => simp [SettingsError.rank]

/-- The settings that an environment gives, as far as they are checked. -/
structure Reading (env : Environment) (s : Settings) : Prop where
  keys : readKeys ((env.get? "API_KEYS").getD "") = .ok s.apiKeys
  secret : env.get? "TOKEN_SECRET" = some s.tokenSecret
  ttl : s.tokenTtl = readTtl (env.get? "TOKEN_TTL_SECONDS")
  environment : s.environment = ((env.get? "ENVIRONMENT").orElse fun _ => env.get? "APP_ENV").getD "development"
  origins : s.origins = (entries ((env.get? "CORS_ORIGINS").getD "*")).map String.ofList

theorem finds_read (env : Environment) : Finds env 4 (Reading env) (read env) := by
  unfold read
  refine ((checks_readBackend env).finds fun _ _ => Nat.zero_le _).bind fun backend _ h₁ => ?_
  refine ((checks_readKeys env).finds h₁).bind fun apiKeys hkeys h₂ => ?_
  refine ((checks_readPort env).finds h₂).bind fun port _ h₃ => ?_
  cases hsecret : env.get? "TOKEN_SECRET" with
  | none => exact ⟨.noSecret hsecret, h₃⟩
  | some secret =>
    refine ⟨h₃.succ fun e he => ?_, ⟨hkeys, hsecret, rfl, rfl, rfl⟩⟩
    cases he with
    | noSecret hget => simp [hsecret] at hget
    | _ => simp [SettingsError.rank]

namespace Reading

variable (hs : Reading env s)
include hs

/-! Each check of the settings looks for one fault of the environment. -/

theorem shortSecret_iff : (Utf8.encode s.tokenSecret).length < minSecret ↔ Fault env .shortSecret := by
  refine ⟨.shortSecret hs.secret, fun he => ?_⟩
  cases he with
  | shortSecret hget hshort =>
    rw [hs.secret] at hget
    cases hget
    exact hshort

theorem zeroTtl_iff : s.tokenTtl = 0 ↔ Fault env .zeroTtl := by
  rw [hs.ttl, readTtl_eq_zero_iff]
  constructor
  · rintro ⟨text, hget, hzero⟩
    exact .ttl hget hzero
  · intro he
    cases he with
    | ttl hget hzero => exact ⟨_, hget, hzero⟩

theorem wildcard_iff : (s.isProduction && s.origins.contains "*") = true ↔ Fault env .wildcardOrigin := by
  rw [Bool.and_eq_true, isProduction_iff hs.environment, List.contains_iff_mem, hs.origins, mem_origins_iff]
  constructor
  · exact fun h => .origins h.1 h.2
  · intro he
    cases he with
    | origins hproduction hall => exact ⟨hproduction, hall⟩

theorem shortKey_iff {user : String} :
    (∃ key, s.apiKeys.find? (isShortKey ·.2) = some (user, key)) ↔ Fault env (.shortKey user) := by
  have hkeys := hs.keys
  constructor
  · rintro ⟨key, hfind⟩
    cases hget : env.get? "API_KEYS" with
    | none =>
      rw [hget] at hkeys
      rw [← Except.ok.inj (show Except.ok [] = Except.ok s.apiKeys from hkeys)] at hfind
      cases hfind
    | some text =>
      rw [hget] at hkeys
      obtain ⟨hshort, front, back, heq, hfront⟩ := find?_isShortKey_eq_some_iff.1 hfind
      rw [heq] at hkeys
      exact .shortKey hget (readKeys_eq_ok_iff.1 hkeys) hfront hshort
  · intro he
    cases he with
    | shortKey hget hlisted hfront hshort =>
      rw [hget] at hkeys
      exact ⟨_, find?_isShortKey_eq_some_iff.2 ⟨hshort, _, _, (readKeys_eq_ok_iff.1 hkeys).unique hlisted, hfront⟩⟩

/-- Checking the settings looks for the four faults in turn. -/
theorem finds_validate (h₄ : FaultlessTo env 4) : Finds env 8 (fun _ => True) s.validate := by
  unfold validate
  split
  · exact ⟨hs.shortSecret_iff.1 ‹_›, h₄⟩
  rename_i hsecret
  have h₅ : FaultlessTo env 5 := h₄.succ fun e he => by
    cases e with
    | shortSecret => exact absurd (hs.shortSecret_iff.2 he) hsecret
    | _ => simp [SettingsError.rank]
  split
  · exact ⟨hs.zeroTtl_iff.1 ‹_›, h₅⟩
  rename_i httl
  have h₆ : FaultlessTo env 6 := h₅.succ fun e he => by
    cases e with
    | zeroTtl => exact absurd (hs.zeroTtl_iff.2 he) httl
    | _ => simp [SettingsError.rank]
  split
  · exact ⟨hs.wildcard_iff.1 ‹_›, h₆⟩
  rename_i horigins
  have h₇ : FaultlessTo env 7 := h₆.succ fun e he => by
    cases e with
    | wildcardOrigin => exact absurd (hs.wildcard_iff.2 he) horigins
    | _ => simp [SettingsError.rank]
  split
  · exact ⟨hs.shortKey_iff.1 ⟨_, ‹_›⟩, h₇⟩
  · rename_i hkeys
    refine ⟨h₇.succ fun e he => ?_, trivial⟩
    cases e with
    | shortKey user =>
      obtain ⟨key, hfind⟩ := hs.shortKey_iff.2 he
      simp [hkeys] at hfind
    | _ => simp [SettingsError.rank]

end Reading

theorem finds_load (env : Environment) : Finds env 8 (Reading env) (load env) :=
  (finds_read env).bind fun _ hs h₄ => (hs.finds_validate h₄).bind fun _ _ h₈ => ⟨h₈, hs⟩

/-! ## Acceptance -/

theorem rank_lt (e : SettingsError) : e.rank < 8 := by cases e <;> simp [SettingsError.rank]

/-- At each place in the order an environment has one fault at most. -/
theorem Fault.eq_of_rank_eq {e' : SettingsError} (h : Fault env e) (h' : Fault env e') (hrank : e.rank = e'.rank) : e = e' := by
  -- Two kinds of error carry a text, which the environment determines.
  cases h with
  | backend hget =>
    cases h' with
    | backend hget' => rw [Option.some.inj (hget.symm.trans hget')]
    | _ => cases hrank
  | shortKey hget hkeys hfront hshort =>
    cases h' with
    | shortKey hget' hkeys' hfront' hshort' =>
      obtain rfl := Option.some.inj (hget.symm.trans hget')
      have hfind := find?_isShortKey_eq_some_iff.2 ⟨hshort, _, _, hkeys'.unique hkeys, hfront⟩
      rw [find?_append_isShortKey hfront' hshort'] at hfind
      cases hfind
      rfl
    | _ => cases hrank
  | _ => cases h' <;> first | rfl | cases hrank

theorem readTtl_of_numeral {n : Nat} (h : Decimal.IsNumeral Decimal.max64 text.toList n) : readTtl (some text) = n := by
  rw [readTtl, Option.bind_some, Decimal.read?_eq_some_iff.2 h, Option.getD_some]

theorem readTtl_of_no_numeral {setting : Option String}
    (h : ∀ text n, setting = some text → ¬Decimal.IsNumeral Decimal.max64 text.toList n) : readTtl setting = 300 := by
  have hnone : (setting.bind fun t => Decimal.read? Decimal.max64 t.toList) = none := by
    refine Option.bind_eq_none_iff.2 fun text htext => Option.eq_none_iff_forall_ne_some.2 fun n hn => ?_
    exact h text n htext (Decimal.read?_eq_some_iff.1 hn)
  rw [readTtl, hnone]
  rfl

theorem Reading.of_mem_origins {origin : String} (hs : Reading env s) (h : origin ∈ s.origins) :
    Text.IsTrimmed origin.toList ∧ origin ≠ "" ∧ ',' ∉ origin.toList := by
  rw [hs.origins] at h
  obtain ⟨entry, hentry, rfl⟩ := List.mem_map.1 h
  simpa using of_mem_entries hentry

/-- Settings are loaded from an environment exactly if it is acceptable. Otherwise the error is that
of the first of its faults, in the order of the checks. Tokens of loaded settings last as long as
the environment says, or five minutes, but never no time, and their origins are entries of a list. -/
theorem loaded_iff_acceptable (env : Environment) :
    ((∃ s, load env = .ok s) ↔ Acceptable env) ∧
    (∀ e, load env = .error e ↔ Fault env e ∧ ∀ e', Fault env e' → e.rank ≤ e'.rank) ∧
    ∀ s, load env = .ok s →
      (∀ text n, env.get? "TOKEN_TTL_SECONDS" = some text → Decimal.IsNumeral Decimal.max64 text.toList n → s.tokenTtl = n) ∧
      ((∀ text n, env.get? "TOKEN_TTL_SECONDS" = some text → ¬Decimal.IsNumeral Decimal.max64 text.toList n) →
        s.tokenTtl = 300) ∧
      s.tokenTtl ≠ 0 ∧ ∀ origin ∈ s.origins, Text.IsTrimmed origin.toList ∧ origin ≠ "" ∧ ',' ∉ origin.toList := by
  have hfinds := finds_load env
  rw [acceptable_iff]
  cases hload : load env with
  | error e =>
    rw [hload] at hfinds
    obtain ⟨hfault, hfirst⟩ := hfinds
    refine ⟨?_, fun e' => ?_, by simp⟩
    · simp only [reduceCtorEq, exists_false, false_iff, not_forall, not_not]
      exact ⟨e, hfault⟩
    · rw [Except.error.injEq]
      constructor
      · rintro rfl
        exact ⟨hfault, hfirst⟩
      · rintro ⟨hfault', hfirst'⟩
        exact hfault.eq_of_rank_eq hfault' (Nat.le_antisymm (hfirst e' hfault') (hfirst' e hfault))
  | ok s =>
    rw [hload] at hfinds
    obtain ⟨hfaultless, hs⟩ := hfinds
    have hno : ∀ e, ¬Fault env e := fun e he => absurd (hfaultless e he) (Nat.not_le.2 (rank_lt e))
    refine ⟨by simpa using hno, by simpa using fun e he => absurd he (hno e), ?_⟩
    rintro s' h
    cases h
    refine ⟨fun text n hget hn => ?_, fun h => ?_, fun hzero => hno _ (hs.zeroTtl_iff.1 hzero), fun _ => hs.of_mem_origins⟩
    · rw [hs.ttl, hget, readTtl_of_numeral hn]
    · rw [hs.ttl, readTtl_of_no_numeral h]

/-- Of a port that is no number, no secret and a lifetime of zero, the port is told. -/
example :
    load ⟨[("TOKEN_TTL_SECONDS", Utf8.encode "+0"), ("PORT", Utf8.encode "65536"), ("API_KEYS", Utf8.encode " a : b ,")]⟩ =
      .error .invalidPort := by
  decide +kernel

end Settings

end DownloadGateway
