import Mathlib.Data.List.Nodup
import PromptTrainer.Store.Basic
/-!
# Reading a store after a write

Every write to a stored key goes through `VariableStore.overwrite`, which puts the new state
in the place of the entry with that key.  This module says what `get?`, `keys` and the locks
read after such a write:

* reading the written key gives the written state, read through the version rule of the write
  (a committed write continues the stored version, a change under the lock stamps the
  variable it changed);
* reading any other key gives what it gave before;
* the keys, their order and the locks are unchanged.

A change in place that fails leaves in the store what it wrote before failing
(`VariableStore.get?_modify_of_refused`).  So a failed operation leaves the store as it was
only when its change checks before it writes (`VariableChange.FailsUnchanged`) and the store
lists each key once (`VariableStore.modify_error_unchanged`): an append and a set fail only
for a missing key, and an attached reward checks the prediction's index first.

`VariableStore.Changed keys R st st'` says the same of writes to several keys at once: each
variable under `keys` changed by the relation `R`, every other key read as before; such
changes chain key by key (`Changed.cons`) and one after another (`Changed.trans`).
-/

namespace PromptTrainer

/-- A change that, when it fails, has not changed the variable: whatever it checks, it checks
before it writes. -/
def VariableChange.FailsUnchanged {α : Type} (change : VariableChange α) : Prop :=
  ∀ v e after, change v = .error e after → after = v

/-- A change that leaves the variable under its key, however it ends. -/
def VariableChange.KeepsKey {α : Type} (change : VariableChange α) : Prop :=
  ∀ v, (∀ a after, change v = .ok a after → after.key = v.key) ∧
    ∀ e after, change v = .error e after → after.key = v.key

namespace VariableStore

/-- The variable under a key carries that key. -/
theorem key_of_get?
    {s : VariableStore}
    {key : String}
    {v : Variable}
    (stored : s.get? key = some v) :
    v.key = key := by
  unfold get? at stored
  simpa using List.find?_some stored

/-- The variable under a key is one of the store's entries. -/
theorem mem_of_get?
    {s : VariableStore}
    {key : String}
    {v : Variable}
    (stored : s.get? key = some v) :
    v ∈ s.entries :=
  List.mem_of_find?_eq_some stored

/-- A stored key is contained in the store. -/
theorem contains_of_get?
    {s : VariableStore}
    {key : String}
    {v : Variable}
    (stored : s.get? key = some v) :
    s.contains key = true := by
  unfold contains
  unfold get? at stored
  have found := List.find?_some stored
  exact List.any_eq_true.mpr ⟨v, List.mem_of_find?_eq_some stored, found⟩

/-! ### Overwriting one entry -/

/-- Reading the overwritten key finds the new state where the old one was. -/
theorem find?_overwrite_self (entries : List Variable) (v : Variable) :
    (overwrite entries v).find? (fun e => e.key == v.key) =
      (entries.find? (fun e => e.key == v.key)).map (fun _ => v) := by
  have sameTest : ((fun e : Variable => e.key == v.key) ∘
      fun e => if e.key == v.key then v else e) = fun e => e.key == v.key := by
    funext e
    by_cases same : e.key = v.key <;> simp [same]
  unfold overwrite
  rw [List.find?_map, sameTest]
  cases found : entries.find? (fun e => e.key == v.key) with
  | none => rfl
  | some e =>
    have same : e.key = v.key := by simpa using List.find?_some found
    simp [same]

/-- Reading another key finds what it found before. -/
theorem find?_overwrite_of_ne
    (entries : List Variable)
    (v : Variable)
    {key : String}
    (other : key ≠ v.key) :
    (overwrite entries v).find? (fun e => e.key == key) =
      entries.find? (fun e => e.key == key) := by
  have sameTest : ((fun e : Variable => e.key == key) ∘
      fun e => if e.key == v.key then v else e) = fun e => e.key == key := by
    funext e
    by_cases same : e.key = v.key <;> simp [same]
  unfold overwrite
  rw [List.find?_map, sameTest]
  cases found : entries.find? (fun e => e.key == key) with
  | none => rfl
  | some e =>
    have found_key : e.key = key := by simpa using List.find?_some found
    have differs : e.key ≠ v.key := by rw [found_key]; exact other
    simp [differs]

/-- Overwriting keeps every key in its place. -/
theorem keys_overwrite (entries : List Variable) (v : Variable) :
    (overwrite entries v).map Variable.key = entries.map Variable.key := by
  unfold overwrite
  rw [List.map_map]
  refine List.map_congr_left (fun e _ => ?_)
  by_cases same : e.key = v.key <;> simp [same]

/-- Among entries of distinct keys, overwriting an entry with itself changes nothing. -/
theorem overwrite_of_mem {entries : List Variable} (distinct : (entries.map Variable.key).Nodup)
    {v : Variable} (member : v ∈ entries) : overwrite entries v = entries := by
  have same : ∀ e ∈ entries, (if e.key == v.key then v else e) = e := by
    intro e stored
    split
    · rename_i named
      exact List.inj_on_of_nodup_map distinct member stored (beq_iff_eq.mp named).symm
    · rfl
  calc entries.map (fun e => if e.key == v.key then v else e)
      _ = entries.map id := List.map_congr_left same
      _ = entries := List.map_id entries

/-- The store with one stored entry overwritten. -/
theorem get?_overwrite_self
    (s : VariableStore)
    (v : Variable)
    {existing : Variable}
    (stored : s.get? v.key = some existing) :
    ({ s with entries := overwrite s.entries v } : VariableStore).get? v.key = some v := by
  unfold get? at stored ⊢
  rw [find?_overwrite_self, stored]
  rfl

theorem get?_overwrite_of_ne
    (s : VariableStore)
    (v : Variable)
    {key : String}
    (other : key ≠ v.key) :
    ({ s with entries := overwrite s.entries v } : VariableStore).get? key = s.get? key := by
  unfold get?
  exact find?_overwrite_of_ne s.entries v other

/-! ### Committed writes -/

/-- A committed write of a stored key overwrites its entry, continuing the stored version. -/
theorem replace_of_stored
    {s : VariableStore}
    {v existing : Variable}
    (stored : s.get? v.key = some existing) :
    s.replace v =
      { s with entries := overwrite s.entries
                 { v with version := existing.version + 1, updatedAt := s.clock } } := by
  simp [replace, insert, stored, Variable.touch]

/-- After a committed write of a stored key, the key holds the written state with the stored
version plus one, stamped with the store's clock. -/
theorem get?_replace_self
    {s : VariableStore}
    {v existing : Variable}
    (stored : s.get? v.key = some existing) :
    (s.replace v).get? v.key =
      some { v with version := existing.version + 1, updatedAt := s.clock } := by
  rw [replace_of_stored stored]
  exact get?_overwrite_self s { v with version := existing.version + 1, updatedAt := s.clock }
    stored

/-- A committed write of a stored key leaves every other key as it was. -/
theorem get?_replace_of_ne
    {s : VariableStore}
    {v existing : Variable}
    {key : String}
    (stored : s.get? v.key = some existing)
    (other : key ≠ v.key) :
    (s.replace v).get? key = s.get? key := by
  rw [replace_of_stored stored]
  exact get?_overwrite_of_ne s _ other

/-- A committed write of a stored key keeps the keys, their order, the locks and the clock. -/
theorem keys_replace
    {s : VariableStore}
    {v existing : Variable}
    (stored : s.get? v.key = some existing) :
    (s.replace v).keys = s.keys := by
  rw [replace_of_stored stored]
  exact keys_overwrite s.entries _

theorem locked_replace
    {s : VariableStore}
    {v existing : Variable}
    (stored : s.get? v.key = some existing) :
    (s.replace v).locked = s.locked := by
  rw [replace_of_stored stored]

/-! ### Changes in place -/

section Modify

variable {α : Type} {s : VariableStore} {key : String} {v : Variable} {change : VariableChange α}

/-- A change of a missing key fails, and the store is as it was. -/
theorem modify_of_missing (missing : s.get? key = none) :
    s.modify key change = .error (.notFound key) s := by
  simp only [modify, missing]

/-- A change of a stored variable that ends with a value overwrites its entry with the changed
variable, stamped as a write. -/
theorem modify_of_stored
    {changed : Variable}
    {a : α}
    (stored : s.get? key = some v)
    (changes : change v = .ok a changed) :
    s.modify key change =
      .ok a { s with entries := overwrite s.entries (changed.touch s.clock) } := by
  simp only [modify, stored, changes]

/-- A change of a stored variable that fails leaves in its entry the variable as the change
left it, unstamped. -/
theorem modify_of_refused
    {changed : Variable}
    {e : StoreError}
    (stored : s.get? key = some v)
    (refuses : change v = .error e changed) :
    s.modify key change = .error e { s with entries := overwrite s.entries changed } := by
  simp only [modify, stored, refuses]

/-- A change of a stored variable that fails after it changed the variable, keeping its key,
leaves the change in the store. -/
theorem get?_modify_of_refused
    {changed : Variable}
    {e : StoreError}
    (stored : s.get? key = some v)
    (refuses : change v = .error e changed)
    (sameKey : changed.key = key) :
    (s.modify key change).store.get? key = some changed := by
  rw [modify_of_refused stored refuses, StoreResult.store_error]
  rw [← sameKey] at stored ⊢
  exact get?_overwrite_self s changed stored

/-- A change that ends with a value ran on a stored variable, and the variable's entry holds
what the change made of it, stamped as a write. -/
theorem modify_eq_ok {s' : VariableStore} {a : α} (changed : s.modify key change = .ok a s') :
    ∃ v after, s.get? key = some v ∧ change v = .ok a after ∧
      s' = { s with entries := overwrite s.entries (after.touch s.clock) } := by
  cases stored : s.get? key with
  | none =>
    rw [modify_of_missing stored] at changed
    cases changed
  | some v =>
    cases ran : change v with
    | ok a' after =>
      rw [modify_of_stored stored ran] at changed
      cases changed
      exact ⟨v, after, rfl, ran, rfl⟩
    | error e after =>
      rw [modify_of_refused stored ran] at changed
      cases changed

/-- In a store of distinct keys, a change that fails only before it changes the variable leaves
the store as it was whenever it fails. -/
theorem modify_error_unchanged
    {e : StoreError}
    {s' : VariableStore}
    (distinct : s.keys.Nodup)
    (failsUnchanged : change.FailsUnchanged)
    (refused : s.modify key change = .error e s') :
    s' = s := by
  cases stored : s.get? key with
  | none =>
    rw [modify_of_missing stored] at refused
    cases refused
    rfl
  | some v =>
    cases ran : change v with
    | ok a after =>
      rw [modify_of_stored stored ran] at refused
      cases refused
    | error e' after =>
      rw [modify_of_refused stored ran, failsUnchanged v e' after ran,
        overwrite_of_mem distinct (mem_of_get? stored)] at refused
      cases refused
      rfl

/-- A change that keeps the key leaves every other key as it was, however it ends. -/
theorem get?_modify_of_ne {k : String} (keeps : change.KeepsKey) (other : k ≠ key) :
    (s.modify key change).store.get? k = s.get? k := by
  cases stored : s.get? key with
  | none =>
    rw [modify_of_missing stored]
    rfl
  | some v =>
    have named := key_of_get? stored
    cases ran : change v with
    | ok a after =>
      have keyed : (after.touch s.clock).key = key := ((keeps v).1 a after ran).trans named
      rw [modify_of_stored stored ran, StoreResult.store_ok]
      exact get?_overwrite_of_ne s _ (keyed ▸ other)
    | error e after =>
      have keyed : after.key = key := ((keeps v).2 e after ran).trans named
      rw [modify_of_refused stored ran, StoreResult.store_error]
      exact get?_overwrite_of_ne s _ (keyed ▸ other)

end Modify

/-- After a change that keeps the key, the key holds the changed variable one version on. -/
theorem get?_touch_self
    {s : VariableStore}
    {key : String}
    {v changed : Variable}
    (stored : s.get? key = some v)
    (sameKey : changed.key = key) :
    ({ s with entries := overwrite s.entries (changed.touch s.clock) } : VariableStore).get? key =
      some (changed.touch s.clock) := by
  have touchedKey : (changed.touch s.clock).key = key := sameKey
  rw [← touchedKey] at stored ⊢
  exact get?_overwrite_self s _ stored

/-- An append to a stored variable is its change, stamped as a write. -/
theorem appendPrediction_of_stored
    {s : VariableStore}
    {key : String}
    {v : Variable}
    (stored : s.get? key = some v)
    (p : Prediction) :
    s.appendPrediction key p =
      .ok v.predictions.length
        { s with
          entries := overwrite s.entries
            (Variable.touch { v with predictions := v.predictions ++ [p] } s.clock) } :=
  modify_of_stored stored rfl

/-- A reward attached to a recorded prediction of a stored variable is its change, stamped as
a write. -/
theorem attachReward_of_recorded
    {s : VariableStore}
    {key : String}
    {v : Variable}
    {index : Nat}
    (stored : s.get? key = some v)
    (recorded : index < v.predictions.length)
    (r : Float) :
    s.attachReward key index r =
      .ok () { s with
        entries := overwrite s.entries
          (Variable.touch
            { v with predictions := v.predictions.modify index (fun p => { p with reward := some r }) }
            s.clock) } :=
  modify_of_stored stored (if_pos recorded)

/-- A reward for a prediction a stored variable has not recorded is refused before the variable
is changed. -/
theorem attachReward_of_unrecorded
    {s : VariableStore}
    {key : String}
    {v : Variable}
    {index : Nat}
    (stored : s.get? key = some v)
    (unrecorded : ¬index < v.predictions.length)
    (r : Float) :
    s.attachReward key index r =
      .error (.invalidArgument ("prediction index " ++ toString index ++ " out of range (" ++
        toString v.predictions.length ++ " recorded)")) { s with entries := overwrite s.entries v } :=
  modify_of_refused stored (if_neg unrecorded)

/-- A set on a stored variable is the update merged into it, stamped as a write. -/
theorem set_of_stored
    {s : VariableStore}
    {key : String}
    {v : Variable}
    (stored : s.get? key = some v)
    (u : VariableUpdate) :
    s.set key u =
      .ok ((v.apply u).touch s.clock)
        { s with entries := overwrite s.entries ((v.apply u).touch s.clock) } := by
  have keyed := key_of_get? stored
  have sameKey : (v.apply u).key = key := keyed
  simp only [set, modify, stored, get?_touch_self stored sameKey]

/-- A set leaves the store its change in place left. -/
theorem store_set (s : VariableStore) (key : String) (u : VariableUpdate) :
    (s.set key u).store = (s.modify key (fun v => .ok () (v.apply u))).store := by
  unfold set
  split
  · split <;> simp_all
  · simp_all

/-! ### Other keys -/

section OtherKeys

variable {s : VariableStore} {key k : String}

/-- An append leaves every other key as it was. -/
theorem get?_appendPrediction_of_ne (p : Prediction) (other : k ≠ key) :
    (s.appendPrediction key p).store.get? k = s.get? k :=
  get?_modify_of_ne (fun v => ⟨fun a after ran => by cases ran; rfl, fun e after ran => by cases ran⟩)
    other

/-- An attached reward leaves every other key as it was, however it ends. -/
theorem get?_attachReward_of_ne (index : Nat) (r : Float) (other : k ≠ key) :
    (s.attachReward key index r).store.get? k = s.get? k := by
  refine get?_modify_of_ne (fun v => ⟨fun a after ran => ?_, fun e after ran => ?_⟩) other
  all_goals
    dsimp only at ran
    split at ran <;> cases ran
    rfl

/-- A set leaves every other key as it was. -/
theorem get?_set_of_ne (u : VariableUpdate) (other : k ≠ key) :
    (s.set key u).store.get? k = s.get? k := by
  rw [store_set]
  exact get?_modify_of_ne (fun v => ⟨fun a after ran => by cases ran; rfl, fun e after ran => by cases ran⟩)
    other

end OtherKeys

/-! ### Failed operations -/

/-- An append fails only for a missing key, since its change always ends with a value; in a store
of distinct keys it then leaves the store as it was. -/
theorem appendPrediction_error
    {s s' : VariableStore}
    {key : String}
    {p : Prediction}
    {e : StoreError}
    (distinct : s.keys.Nodup)
    (refused : s.appendPrediction key p = .error e s') :
    s' = s :=
  modify_error_unchanged distinct (fun v e after ran => by cases ran) refused

/-- An attached reward checks the prediction's index before it changes the variable, so in a
store of distinct keys a refused one leaves the store as it was. -/
theorem attachReward_error
    {s s' : VariableStore}
    {key : String}
    {index : Nat}
    {r : Float}
    {e : StoreError}
    (distinct : s.keys.Nodup)
    (refused : s.attachReward key index r = .error e s') :
    s' = s := by
  refine modify_error_unchanged distinct (fun v e after ran => ?_) refused
  dsimp only at ran
  split at ran
  · cases ran
  · cases ran
    rfl

/-- A set fails only for a missing key, and then leaves the store as it was. -/
theorem set_error
    {s s' : VariableStore}
    {key : String}
    {u : VariableUpdate}
    {e : StoreError}
    (refused : s.set key u = .error e s') :
    s' = s := by
  cases stored : s.get? key with
  | none =>
    simp only [set, modify_of_missing stored] at refused
    cases refused
    rfl
  | some v =>
    rw [set_of_stored stored u] at refused
    cases refused

/-- An operation decided before it changes anything leaves the store as it was when it fails. -/
theorem decided_error
    {α : Type}
    {s s' : VariableStore}
    {result : Except StoreError (α × VariableStore)}
    {e : StoreError}
    (refused : s.decided result = .error e s') :
    s' = s := by
  cases result with
  | ok pair =>
    obtain ⟨a, st⟩ := pair
    cases refused
  | error e' =>
    cases refused
    rfl

/-- A key stays free while it stays stored and the locks stay as they were. -/
theorem lockState_free_of_get?
    {s s' : VariableStore}
    {key : String}
    {v : Variable}
    (found : s'.get? key = some v)
    (sameLocks : s'.locked = s.locked)
    (free : s.lockState key = .free) :
    s'.lockState key = .free := by
  have notHeld : key ∉ s.locked := by
    unfold lockState at free
    split at free
    · cases free
    · split at free
      · cases free
      · simpa using ‹¬(s.locked.contains key = true)›
  simp [lockState, contains_of_get? found, sameLocks, notHeld]

/-- An unlocked store holds no key's lock. -/
theorem lockState_free_of_unlocked
    {s : VariableStore}
    {key : String}
    {v : Variable}
    (found : s.get? key = some v)
    (unlocked : s.locked = []) :
    s.lockState key = .free := by
  simp [lockState, contains_of_get? found, unlocked]

/-- A key with a variable is a key of the store. -/
theorem mem_keys_of_get?
    {s : VariableStore}
    {key : String}
    {v : Variable}
    (found : s.get? key = some v) :
    key ∈ s.keys := by
  rw [← key_of_get? found]
  exact List.mem_map_of_mem (List.mem_of_find?_eq_some found)

/-- Every key of the store has a variable. -/
theorem get?_of_mem_keys
    {s : VariableStore}
    {key : String}
    (member : key ∈ s.keys) :
    ∃ v, s.get? key = some v := by
  obtain ⟨v, stored, rfl⟩ := List.mem_map.mp member
  have found : (s.entries.find? (fun e => e.key == v.key)).isSome := by
    rw [List.find?_isSome]
    exact ⟨v, stored, beq_self_eq_true v.key⟩
  exact Option.isSome_iff_exists.mp found

/-! ### Changes of several keys -/

/-- The store `st'` is `st` with each variable under `keys` changed, `v` to some `v'` with
`R v v'`: the keys keep their order, the locks stay, and every other key reads as it did. -/
structure Changed (keys : List String) (R : Variable → Variable → Prop)
    (st st' : VariableStore) : Prop where
  keys_eq : st'.keys = st.keys
  locked_eq : st'.locked = st.locked
  others : ∀ k, k ∉ keys → st'.get? k = st.get? k
  changed : ∀ k ∈ keys, ∀ v, st.get? k = some v → ∃ v', st'.get? k = some v' ∧ R v v'

namespace Changed

variable {keys : List String} {R R' : Variable → Variable → Prop} {st st₁ st' : VariableStore}

theorem nil (R : Variable → Variable → Prop) (st : VariableStore) : Changed [] R st st where
  keys_eq := rfl
  locked_eq := rfl
  others _ _ := rfl
  changed _ member := absurd member List.not_mem_nil

/-- A key kept as it is, which the relation allows, is changed. -/
theorem kept {key : String} {v : Variable} (found : st.get? key = some v) (holds : R v v) :
    Changed [key] R st st where
  keys_eq := rfl
  locked_eq := rfl
  others _ _ := rfl
  changed k member v' stored := by
    obtain rfl := List.mem_singleton.mp member
    rw [found] at stored
    cases stored
    exact ⟨v, found, holds⟩

/-- A committed write of a stored key changes it to the written state, as the version rule
of the write stamps it. -/
theorem replace {key : String} {v after : Variable} (found : st.get? key = some v)
    (sameKey : after.key = key)
    (holds : R v { after with version := v.version + 1, updatedAt := st.clock }) :
    Changed [key] R st (st.replace after) := by
  rw [← sameKey] at found ⊢
  refine ⟨keys_replace found, locked_replace found, fun k other => ?_, fun k member v' stored => ?_⟩
  · exact get?_replace_of_ne found (fun same => other (List.mem_singleton.mpr same))
  · obtain rfl := List.mem_singleton.mp member
    rw [found] at stored
    cases stored
    exact ⟨_, get?_replace_self found, holds⟩

/-- A change of one key, then of other keys, is a change of them all. -/
theorem cons {key : String} (first : Changed [key] R st st₁) (rest : Changed keys R st₁ st')
    (fresh : key ∉ keys) : Changed (key :: keys) R st st' where
  keys_eq := rest.keys_eq.trans first.keys_eq
  locked_eq := rest.locked_eq.trans first.locked_eq
  others k other := by
    have notFirst : k ∉ [key] := fun member => other (List.mem_cons.mpr (.inl
      (List.mem_singleton.mp member)))
    rw [rest.others k (fun member => other (List.mem_cons_of_mem key member)),
      first.others k notFirst]
  changed k member v stored := by
    rcases List.mem_cons.mp member with rfl | later
    · obtain ⟨v', changedFirst, holds⟩ := first.changed k (List.mem_singleton_self k) v stored
      exact ⟨v', (rest.others k fresh).trans changedFirst, holds⟩
    · have other : k ∉ [key] := fun same => fresh (List.mem_singleton.mp same ▸ later)
      rw [← first.others k other] at stored
      exact rest.changed k later v stored

/-- Two changes of the same keys, one after the other, change each key by both in turn. -/
theorem trans (first : Changed keys R st st₁) (second : Changed keys R' st₁ st') :
    Changed keys (fun v v'' => ∃ v', R v v' ∧ R' v' v'') st st' where
  keys_eq := second.keys_eq.trans first.keys_eq
  locked_eq := second.locked_eq.trans first.locked_eq
  others k other := (second.others k other).trans (first.others k other)
  changed k member v stored := by
    obtain ⟨v₁, stored₁, holds₁⟩ := first.changed k member v stored
    obtain ⟨v', stored', holds'⟩ := second.changed k member v₁ stored₁
    exact ⟨v', stored', v₁, holds₁, holds'⟩

theorem mono (weaker : ∀ v v', R v v' → R' v v') (changed : Changed keys R st st') :
    Changed keys R' st st' where
  keys_eq := changed.keys_eq
  locked_eq := changed.locked_eq
  others := changed.others
  changed k member v stored := by
    obtain ⟨v', stored', holds⟩ := changed.changed k member v stored
    exact ⟨v', stored', weaker v v' holds⟩

/-- A change by a relation that implies another on the variables of the changed keys is a change
by the other. -/
theorem mono_keyed (weaker : ∀ v v', v.key ∈ keys → R v v' → R' v v')
    (changed : Changed keys R st st') : Changed keys R' st st' where
  keys_eq := changed.keys_eq
  locked_eq := changed.locked_eq
  others := changed.others
  changed k member v stored := by
    obtain ⟨v', stored', holds⟩ := changed.changed k member v stored
    refine ⟨v', stored', weaker v v' ?_ holds⟩
    rw [key_of_get? stored]
    exact member

/-- A change keeps each changed variable's key. -/
theorem keyed (changed : Changed keys R st st') :
    Changed keys (fun v v' => R v v' ∧ v'.key = v.key) st st' where
  keys_eq := changed.keys_eq
  locked_eq := changed.locked_eq
  others := changed.others
  changed k member v stored := by
    obtain ⟨v', stored', holds⟩ := changed.changed k member v stored
    exact ⟨v', stored', holds, by rw [key_of_get? stored, key_of_get? stored']⟩

/-- After a change of every key of the store, each key has a variable before and after, the two
related. -/
theorem stored {k : String} (changed : Changed st.keys R st st') (member : k ∈ st.keys) :
    ∃ v v', st.get? k = some v ∧ st'.get? k = some v' ∧ R v v' := by
  obtain ⟨v, found⟩ := get?_of_mem_keys member
  obtain ⟨v', found', holds⟩ := changed.changed k member v found
  exact ⟨v, v', found, found', holds⟩

/-- After a change of every key of the store, each variable stored is related to the one its
key had before. -/
theorem before_of_get? {k : String} {v' : Variable} (changed : Changed st.keys R st st')
    (found' : st'.get? k = some v') : ∃ v, st.get? k = some v ∧ R v v' := by
  have member : k ∈ st.keys := by
    rw [← changed.keys_eq]
    exact mem_keys_of_get? found'
  obtain ⟨v, v'', found, found'', holds⟩ := changed.stored member
  rw [found'] at found''
  cases found''
  exact ⟨v, found, holds⟩

end Changed

end VariableStore

end PromptTrainer
