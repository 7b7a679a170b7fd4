import DownloadGateway.Auth.Strategy
import Mathlib.Data.List.Basic
/-!
# Chains of strategies

A chain makes attempts in order, up to the first that finds a credential. `tried` says what comes of
a plain list of attempts that is worked through in this way, and a chain is no more than that: of its
members, which may be chains again, and of the single attempts that these come down to. So it makes
no difference how attempts are grouped into chains.
-/

namespace DownloadGateway.Strategy

variable {request : Http.Request} {s : Strategy} {members members' : List Strategy} {attempt : Attempt}
  {attempts : List Attempt}

/-! ## Attempts in order -/

/-- An attempt finds no credential of the kind it looks for. -/
def Misses (request : Http.Request) (attempt : Attempt) : Prop := (attempt request).value = .error .missing

instance (request : Http.Request) : DecidablePred (Misses request) := fun attempt =>
  match h : (attempt request).value with
  | .error .missing => isTrue h
  | .error (.invalid _) | .ok _ => isFalse (by simp [Misses, h])

/-- The first attempt that finds a credential, whatever that is worth. -/
def decisive? (request : Http.Request) (attempts : List Attempt) : Option Attempt :=
  attempts.find? fun attempt => ¬Misses request attempt

/-- The attempts up to and including the first that finds a credential. -/
def made (request : Http.Request) (attempts : List Attempt) : List Attempt :=
  attempts.takeWhile (Misses request) ++ (decisive? request attempts).toList

/-- What comes of some attempts: the outcome of the first that finds a credential, or that one is
missing, and the events of the attempts that are made. -/
def tried (request : Http.Request) (attempts : List Attempt) : Traced (Except AuthError Identity) where
  value := (decisive? request attempts).elim (.error .missing) fun attempt => (attempt request).value
  events := (made request attempts).flatMap fun attempt => (attempt request).events

theorem made_initial (request : Http.Request) (attempts : List Attempt) : made request attempts <+: attempts := by
  induction attempts with
  | nil => exact List.nil_prefix
  | cons attempt attempts ih =>
    by_cases h : Misses request attempt
    · simpa [made, decisive?, h] using ih
    · simp [made, decisive?, h]

theorem tried_cons_of_misses (h : Misses request attempt) (attempts : List Attempt) :
    tried request (attempt :: attempts) =
      ⟨(tried request attempts).value, (attempt request).events ++ (tried request attempts).events⟩ := by
  simp [tried, made, decisive?, h]

theorem tried_cons_of_found (h : ¬Misses request attempt) (attempts : List Attempt) :
    tried request (attempt :: attempts) = attempt request := by
  simp [tried, made, decisive?, h]

/-- Attempts that all miss hand over to those behind them. -/
theorem tried_append_of_misses (h : (tried request attempts).value = .error .missing) (attempts' : List Attempt) :
    tried request (attempts ++ attempts') =
      ⟨(tried request attempts').value, (tried request attempts).events ++ (tried request attempts').events⟩ := by
  induction attempts with
  | nil => rfl
  | cons attempt attempts ih =>
    by_cases hfirst : Misses request attempt
    · rw [tried_cons_of_misses hfirst] at h ⊢
      rw [List.cons_append, tried_cons_of_misses hfirst, ih h, List.append_assoc]
    · rw [tried_cons_of_found hfirst] at h
      exact absurd h hfirst

/-- Behind an attempt that finds a credential no other is made. -/
theorem tried_append_of_found (h : (tried request attempts).value ≠ .error .missing) (attempts' : List Attempt) :
    tried request (attempts ++ attempts') = tried request attempts := by
  induction attempts with
  | nil => exact absurd rfl h
  | cons attempt attempts ih =>
    rw [List.cons_append]
    by_cases hfirst : Misses request attempt
    · rw [tried_cons_of_misses hfirst] at h
      rw [tried_cons_of_misses hfirst, tried_cons_of_misses hfirst, ih h]
    · rw [tried_cons_of_found hfirst, tried_cons_of_found hfirst]

/-! ## Chains -/

theorem firstOf_cons_of_misses (h : Misses request s.authenticate) (rest : List Strategy) :
    firstOf (s :: rest) request =
      ⟨(firstOf rest request).value, (s.authenticate request).events ++ (firstOf rest request).events⟩ := by
  rw [firstOf]
  apply Traced.ext <;> simp only [Traced.value_bind, Traced.events_bind] <;> rw [h]

theorem firstOf_cons_of_found (h : ¬Misses request s.authenticate) (rest : List Strategy) :
    firstOf (s :: rest) request = s.authenticate request := by
  rw [firstOf]
  apply Traced.ext <;> simp only [Traced.value_bind, Traced.events_bind] <;> split
  · exact absurd ‹_› h
  · rfl
  · exact absurd ‹_› h
  · exact List.append_nil _

/-- A chain tries its members in order. -/
theorem firstOf_eq_tried (request : Http.Request) (members : List Strategy) :
    firstOf members request = tried request (members.map authenticate) := by
  induction members with
  | nil => rw [firstOf]; rfl
  | cons s rest ih =>
    rw [List.map_cons]
    by_cases h : Misses request s.authenticate
    · rw [firstOf_cons_of_misses h, tried_cons_of_misses h, ih]
    · rw [firstOf_cons_of_found h, tried_cons_of_found h]

mutual

/-- What a strategy comes to is what its single attempts come to, in order. -/
theorem authenticate_eq_tried (request : Http.Request) :
    ∀ s : Strategy, s.authenticate request = tried request s.leaves
  | .leaf attempt => by
    rw [authenticate, leaves]
    by_cases h : Misses request attempt
    · rw [tried_cons_of_misses h]
      exact Traced.ext h (List.append_nil _).symm
    · rw [tried_cons_of_found h]
  | .chain members => by rw [authenticate, leaves, firstOf_eq_tried_leaves]

theorem firstOf_eq_tried_leaves (request : Http.Request) :
    ∀ members : List Strategy, firstOf members request = tried request (leavesOf members)
  | [] => by rw [firstOf]; rfl
  | s :: rest => by
    have hs := authenticate_eq_tried request s
    rw [leavesOf]
    by_cases h : Misses request s.authenticate
    · rw [firstOf_cons_of_misses h, firstOf_eq_tried_leaves request rest, hs]
      rw [Misses, hs] at h
      exact (tried_append_of_misses h _).symm
    · rw [firstOf_cons_of_found h, hs]
      rw [Misses, hs] at h
      exact (tried_append_of_found h _).symm

end

/-! ## Taking nested chains apart -/

/-- The second list is the first, but that some chains in it, at any depth, stand no longer as
chains: their members stand in their place. -/
inductive Unnested : List Strategy → List Strategy → Prop
  | nil : Unnested [] []
  | keep {rest rest' : List Strategy} (s : Strategy) (hrest : Unnested rest rest') :
    Unnested (s :: rest) (s :: rest')
  | within {members members' rest rest' : List Strategy} (hmembers : Unnested members members')
    (hrest : Unnested rest rest') : Unnested (.chain members :: rest) (.chain members' :: rest')
  | inPlace {members members' rest rest' : List Strategy} (hmembers : Unnested members members')
    (hrest : Unnested rest rest') : Unnested (.chain members :: rest) (members' ++ rest')

theorem leavesOf_append (members rest : List Strategy) :
    leavesOf (members ++ rest) = leavesOf members ++ leavesOf rest := by
  induction members with
  | nil => rfl
  | cons s members ih => rw [List.cons_append, leavesOf, leavesOf, ih, List.append_assoc]

theorem Unnested.leavesOf_eq (h : Unnested members members') : leavesOf members' = leavesOf members := by
  induction h with
  | nil => rfl
  | keep s _ ih => rw [leavesOf, leavesOf, ih]
  | within _ _ ihm ih => rw [leavesOf, leavesOf, leaves, leaves, ihm, ih]
  | inPlace _ _ ihm ih => rw [leavesOf_append, leavesOf, leaves, ihm, ih]

/-- A chain can be taken apart down to its single attempts. -/
theorem unnested_leaves : ∀ members : List Strategy, Unnested members ((leavesOf members).map .leaf)
  | [] => .nil
  | .leaf attempt :: rest => .keep _ (unnested_leaves rest)
  | .chain members :: rest => by
    rw [leavesOf, leaves, List.map_append]
    exact .inPlace (unnested_leaves members) (unnested_leaves rest)

/-- A chain comes to what its members come to in order, so the first that finds a credential settles
the outcome and is the last that is tried; and to what the single attempts come to that the members
hold at any depth. Where each attempt is recorded by a call of its own, the calls are those of the
attempts that are made. Taking chains apart that are nested in it changes none of this. -/
theorem chain_tries (members : List Strategy) (request : Http.Request) :
    (chain members).authenticate request = tried request (members.map authenticate) ∧
      (chain members).authenticate request = tried request (leavesOf members) ∧
      (∀ name : Attempt → String,
        (∀ attempt ∈ leavesOf members, Event.calls (attempt request).events = [.strategy (name attempt)]) →
        Event.calls ((chain members).authenticate request).events =
          (made request (leavesOf members)).map fun attempt => .strategy (name attempt)) ∧
      ∀ members', Unnested members members' →
        (chain members').authenticate request = (chain members).authenticate request ∧
          made request (leavesOf members') = made request (leavesOf members) := by
  have hleaves (members : List Strategy) :
      (chain members).authenticate request = tried request (leavesOf members) := by
    rw [authenticate_eq_tried, leaves]
  refine ⟨firstOf_eq_tried request members, hleaves members, fun name hname => ?_, fun members' h => ?_⟩
  · have hmade : ∀ attempt ∈ made request (leavesOf members),
        Event.calls (attempt request).events = [.strategy (name attempt)] := fun attempt h =>
      hname attempt ((made_initial request _).subset h)
    calc Event.calls ((chain members).authenticate request).events
        = (made request (leavesOf members)).flatMap fun attempt => Event.calls (attempt request).events := by
          rw [hleaves, tried, Event.calls, List.filterMap_flatMap]
          rfl
      _ = (made request (leavesOf members)).flatMap fun attempt => [.strategy (name attempt)] :=
          List.flatMap_congr hmade
      _ = (made request (leavesOf members)).map fun attempt => .strategy (name attempt) :=
          List.map_eq_flatMap.symm
  · rw [hleaves, hleaves, h.leavesOf_eq]
    exact ⟨rfl, rfl⟩

/-- A chain in a chain: it misses first, then rejects what it finds, and the user behind it is not
asked for any more. -/
theorem chain_tries_nested :
    let request : Http.Request := ⟨"GET", "/", none, []⟩
    let first : Strategy := fixed "first" (.error .missing)
    let second : Strategy := fixed "second" (.error .missing)
    let third : Strategy := fixed "third" (.error (.invalid .unknownKey))
    let last : Strategy := fixed "last" (.ok ⟨"u", .apiKey⟩)
    let members : List Strategy := [first, .chain [.chain [second], third], last]
    let name : Attempt → String := fun attempt =>
      match Event.calls (attempt request).events with
      | .strategy name :: _ => name
      | _ => ""
    (∀ attempt ∈ leavesOf members, Event.calls (attempt request).events = [.strategy (name attempt)]) ∧
      Unnested members [first, second, third, last] ∧
      (chain [first, second, third, last]).authenticate request = (chain members).authenticate request ∧
      ((chain members).authenticate request).value = .error (.invalid .unknownKey) ∧
      Event.calls ((chain members).authenticate request).events =
        [.strategy "first", .strategy "second", .strategy "third"] := by
  intro request first second third last members name
  have hname : ∀ attempt ∈ leavesOf members, Event.calls (attempt request).events = [.strategy (name attempt)] := by
    simp [members, leavesOf, leaves, first, second, third, last, fixed, name]
  have hflat : Unnested members [first, second, third, last] := unnested_leaves members
  obtain ⟨hmembers, -, hcalls, hunnested⟩ := chain_tries members request
  exact ⟨hname, hflat, (hunnested _ hflat).1, by rw [hmembers]; rfl, hcalls name hname⟩

end DownloadGateway.Strategy
