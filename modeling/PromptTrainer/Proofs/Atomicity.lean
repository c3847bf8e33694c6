import PromptTrainer.Proofs.KeyOrder
import PromptTrainer.Proofs.Work
import PromptTrainer.Request.Session
/-!
# Failed store steps change nothing

An action is *atomic* when a failure or a stop leaves the workbench as it found it: whatever
the action writes, it writes only on its way to a value.  The store writes a variable in place,
so this holds only of stores that list each key once, where overwriting a variable with itself
changes nothing; every store reached by calls is one (`VariableStore.key_order_invariant`).
Atomicity is built from two simpler kinds of action.

* A *read-only* action leaves the workbench as it found it, whatever it ends with: reading the
  request, the store or a variable, failing, and waiting for a key's lock.
* A *total* action always ends with a value: writing the store or committing a variable.

A read-only action followed by an atomic one is atomic (`Work.atomic_bind_readOnly`), and so is
an atomic action followed by a total one (`Work.atomic_bind_total`): every check before the
write reads, and nothing after it can fail.  A store change is atomic when the operation it runs
fails only where it started (`Work.atomic_change`, `Work.atomic_locked`).  For the changes in
place this is a fact about their closures: an append's and a set's always end with a value, and
an attached reward's checks the prediction's index before it writes.  A closure that wrote and
then failed would leave its write in the store (`VariableStore.get?_modify_of_refused`).

Main statement: from every reachable store, every step on the store is atomic
(`Request.storeStep_atomic`).  Registering, appending a prediction, attaching a reward, merging
an update, committing, locking and restoring a snapshot each check everything that can fail
before they write: a refused reward before the lock is asked for, an unknown key or an
unrecorded prediction inside the change before the variable is written, and every variable of a
snapshot before any of them is stored.
-/

namespace PromptTrainer

namespace Work

variable {ε δ α β : Type}

/-- From a workbench whose store lists each key once, a failure or a stop of the action leaves
the workbench as it found it. -/
def Atomic (w : Work ε α) : Prop :=
  ∀ s stop s', s.store.keys.Nodup → w s = .error stop s' → s' = s

/-- The action leaves the workbench as it found it, whatever it ends with. -/
def ReadOnly (w : Work ε α) : Prop := ∀ s, w.after s = s

/-- The action ends with a value from every workbench. -/
def Total (w : Work ε α) : Prop := ∀ s, ∃ a s', w s = .ok a s'

theorem ReadOnly.ok_eq {w : Work ε α} (readOnly : w.ReadOnly) {s s' : Workbench} {a : α}
    (ran : w s = .ok a s') : s' = s := by
  simpa [after, ran] using readOnly s

theorem ReadOnly.atomic {w : Work ε α} (readOnly : w.ReadOnly) : w.Atomic := by
  intro s stop s' _ ran
  simpa [after, ran] using readOnly s

theorem Total.atomic {w : Work ε α} (total : w.Total) : w.Atomic := by
  intro s stop s' _ ran
  obtain ⟨a, s₁, ended⟩ := total s
  rw [ran] at ended
  cases ended

/-! ### Read-only actions -/

theorem readOnly_pure (a : α) : (pure a : Work ε α).ReadOnly := fun _ => rfl

theorem readOnly_fail (e : ε) : (fail e : Work ε α).ReadOnly := fun _ => rfl

theorem readOnly_ofExcept (result : Except ε α) : (ofExcept result).ReadOnly := by
  cases result <;> exact fun _ => rfl

theorem readOnly_store : (store : Work ε VariableStore).ReadOnly := fun _ => rfl

theorem readOnly_get? (key : String) : (get? key : Work ε (Option Variable)).ReadOnly :=
  fun _ => rfl

/-- Waiting for a lock only reads the store: a missing key fails and a held lock stops, both
where they started. -/
theorem readOnly_awaitLock (key : String) : (awaitLock key).ReadOnly := by
  intro s
  simp only [after, awaitLock_run]
  cases s.store.lockState key <;> rfl

theorem readOnly_mapError {w : Work ε α} (f : ε → δ) (readOnly : w.ReadOnly) :
    (w.mapError f).ReadOnly := by
  intro s
  have kept := readOnly s
  simp only [after, mapError_run] at kept ⊢
  cases ran : w s with
  | ok a s₁ => simpa [ran] using kept
  | error e s₁ => cases e <;> simpa [ran] using kept

theorem readOnly_bind {x : Work ε α} {f : α → Work ε β} (first : x.ReadOnly)
    (rest : ∀ a, (f a).ReadOnly) : (x >>= f).ReadOnly := by
  intro s
  cases ran : x s with
  | ok a s₁ =>
    rw [first.ok_eq ran] at ran
    simpa [after, ran] using rest a s
  | error e s₁ => simpa [after, ran] using first s

/-! ### Total actions -/

theorem total_pure (a : α) : (pure a : Work ε α).Total := fun s => ⟨a, s, rfl⟩

theorem total_setStore (st : VariableStore) : (setStore st : Work ε Unit).Total :=
  fun _ => ⟨(), _, rfl⟩

theorem total_replace (v : Variable) : (replace v : Work ε Unit).Total :=
  fun _ => ⟨(), _, rfl⟩

theorem total_bind {x : Work ε α} {f : α → Work ε β} (first : x.Total)
    (rest : ∀ a, (f a).Total) : (x >>= f).Total := by
  intro s
  obtain ⟨a, s₁, ran⟩ := first s
  obtain ⟨b, s₂, ran₂⟩ := rest a s₁
  exact ⟨b, s₂, by simp [ran, ran₂]⟩

/-! ### Atomic actions -/

/-- Checks that only read, then an atomic action, make an atomic action. -/
theorem atomic_bind_readOnly {x : Work ε α} {f : α → Work ε β} (first : x.ReadOnly)
    (rest : ∀ a, (f a).Atomic) : (x >>= f).Atomic := by
  intro s stop s' distinct ran
  cases ranFirst : x s with
  | ok a s₁ =>
    rw [first.ok_eq ranFirst] at ranFirst
    exact rest a s stop s' distinct (by simpa [ranFirst] using ran)
  | error e s₁ =>
    have kept := first.atomic s e s₁ distinct ranFirst
    simp only [bind_run, ranFirst, EStateM.Result.error.injEq] at ran
    rw [← ran.2, kept]

/-- An atomic action followed by one that cannot fail is atomic: the only failure is the
first action's. -/
theorem atomic_bind_total {x : Work ε α} {f : α → Work ε β} (first : x.Atomic)
    (rest : ∀ a, (f a).Total) : (x >>= f).Atomic := by
  intro s stop s' distinct ran
  cases ranFirst : x s with
  | ok a s₁ =>
    obtain ⟨b, s₂, ranRest⟩ := rest a s₁
    simp [ranFirst, ranRest] at ran
  | error e s₁ =>
    simp only [bind_run, ranFirst, EStateM.Result.error.injEq] at ran
    rw [← ran.2, first s e s₁ distinct ranFirst]

theorem atomic_mapError {w : Work ε α} (f : ε → δ) (atomic : w.Atomic) :
    (w.mapError f).Atomic := by
  intro s stop s' distinct ran
  cases ranW : w s with
  | ok a s₁ => simp [ranW] at ran
  | error e s₁ =>
    have kept := atomic s e s₁ distinct ranW
    cases e <;> simp only [mapError_run, ranW, EStateM.Result.error.injEq] at ran <;>
      rw [← ran.2, kept]

theorem atomic_ite {c : Prop} [Decidable c] {x y : Work ε α} (yes : x.Atomic) (no : y.Atomic) :
    (if c then x else y).Atomic := by
  by_cases holds : c
  · rw [if_pos holds]
    exact yes
  · rw [if_neg holds]
    exact no

/-- A store change is atomic when the operation it runs, on a store of distinct keys, fails only
where it started. -/
theorem atomic_change {f : VariableStore → StoreResult α}
    (refusals : ∀ st e st', st.keys.Nodup → f st = .error e st' → st' = st) :
    (change f).Atomic := by
  intro s stop s' distinct ran
  simp only [change_run] at ran
  split at ran
  · cases ran
  · rename_i e st refused
    simp only [EStateM.Result.error.injEq] at ran
    rw [← ran.2, refusals s.store e st distinct refused]

theorem atomic_locked (key : String) {f : VariableStore → StoreResult α}
    (refusals : ∀ st e st', st.keys.Nodup → f st = .error e st' → st' = st) :
    (locked key f).Atomic :=
  atomic_bind_readOnly (readOnly_awaitLock key) fun _ => atomic_change refusals

end Work

namespace Request

open Work

/-- Every step on the store is atomic. -/
theorem atomic_storeStep (op : String) (spec : Json) : (storeStep op spec).Atomic := by
  unfold storeStep
  refine atomic_ite ?_ ?_
  · -- register: the initial instructions are read, whichever way they are given, then the
    -- registration is written, which cannot fail
    refine atomic_bind_readOnly (readOnly_ofExcept _) fun key => ?_
    dsimp only
    split
    all_goals
      try refine atomic_bind_readOnly (readOnly_ofExcept _) fun lines => ?_
      refine atomic_bind_readOnly (readOnly_pure _) fun initial => ?_
      refine atomic_bind_readOnly readOnly_store fun st => ?_
      exact (total_bind (total_setStore _) fun _ => total_pure _).atomic
  refine atomic_ite ?_ ?_
  · -- append
    refine atomic_bind_readOnly (readOnly_ofExcept _) fun key => ?_
    refine atomic_bind_readOnly (readOnly_ofExcept _) fun given => ?_
    refine atomic_bind_readOnly (readOnly_ofExcept _) fun p => ?_
    exact atomic_bind_total (atomic_mapError _ (atomic_locked _ fun st e st' distinct refused =>
      VariableStore.appendPrediction_error distinct refused)) fun index => total_pure _
  refine atomic_ite ?_ ?_
  · -- attach_reward: a refused reward fails before the lock is asked for
    refine atomic_bind_readOnly (readOnly_ofExcept _) fun key => ?_
    refine atomic_bind_readOnly (readOnly_ofExcept _) fun index => ?_
    refine atomic_bind_readOnly (readOnly_ofExcept _) fun given => ?_
    refine atomic_bind_readOnly (readOnly_ofExcept _) fun r => ?_
    split
    · exact (readOnly_fail _).atomic
    · exact atomic_bind_total (atomic_mapError _ (atomic_locked _ fun st e st' distinct refused =>
        VariableStore.attachReward_error distinct refused)) fun _ => total_pure _
  refine atomic_ite ?_ ?_
  · -- get
    refine atomic_bind_readOnly (readOnly_ofExcept _) fun key => ?_
    exact (readOnly_bind (readOnly_get? key) fun _ => readOnly_pure _).atomic
  refine atomic_ite ?_ ?_
  · -- set
    refine atomic_bind_readOnly (readOnly_ofExcept _) fun key => ?_
    refine atomic_bind_readOnly (readOnly_ofExcept _) fun given => ?_
    refine atomic_bind_readOnly (readOnly_ofExcept _) fun update => ?_
    exact atomic_bind_total (atomic_mapError _ (atomic_locked _ fun st e st' _ refused =>
      VariableStore.set_error refused)) fun v => total_pure _
  refine atomic_ite ?_ ?_
  · -- replace
    refine atomic_bind_readOnly (readOnly_ofExcept _) fun given => ?_
    refine atomic_bind_readOnly (readOnly_ofExcept _) fun v => ?_
    exact (total_bind (total_replace v) fun _ => total_pure _).atomic
  refine atomic_ite ?_ ?_
  · -- keys
    exact (readOnly_bind readOnly_store fun _ => readOnly_pure _).atomic
  refine atomic_ite ?_ ?_
  · -- lock: the key is checked and the lock awaited before it is taken
    refine atomic_bind_readOnly (readOnly_ofExcept _) fun key => ?_
    refine atomic_bind_readOnly (readOnly_mapError _ (readOnly_awaitLock key)) fun _ => ?_
    refine atomic_bind_readOnly readOnly_store fun st => ?_
    exact (total_bind (total_setStore _) fun _ => total_pure _).atomic
  refine atomic_ite ?_ ?_
  · -- unlock
    refine atomic_bind_readOnly (readOnly_ofExcept _) fun key => ?_
    refine atomic_bind_readOnly readOnly_store fun st => ?_
    split
    exact (total_bind (total_setStore _) fun _ => total_pure _).atomic
  refine atomic_ite ?_ ?_
  · -- snapshot
    exact (readOnly_bind readOnly_store fun _ => readOnly_pure _).atomic
  refine atomic_ite ?_ ?_
  · -- restore: the whole snapshot is read before any variable is stored
    refine atomic_bind_readOnly (readOnly_ofExcept _) fun document => ?_
    exact atomic_bind_total (atomic_mapError _ (atomic_change fun st e st' _ refused =>
      VariableStore.decided_error refused)) fun count => total_pure _
  · exact (readOnly_pure _).atomic

/-- From every store reached by calls, every step on the store is atomic: a step that fails, for
a malformed request, an unknown key, a refused reward, an unrecorded prediction or an unreadable
snapshot, or that stops on a lock held from outside, leaves the workbench as it found it, every
variable with its version, instant and place in the key order included. -/
theorem storeStep_atomic
    {n : Nat}
    {clock : Timestamp}
    {calls : List StoreCall}
    {s s' : Workbench}
    {stop : Stop Failure}
    (op : String)
    (spec : Json)
    (reached : (VariableStore.empty n clock).performAll calls = s.store)
    (failed : storeStep op spec s = .error stop s') :
    s' = s :=
  have coherent : s.store.Coherent :=
    reached ▸ VariableStore.coherent_performAll calls (VariableStore.empty_coherent n clock)
  atomic_storeStep op spec s stop s' coherent.distinct failed

/-- A reward attached to a prediction that a registered variable has not recorded is refused
inside the change, after the key was found and its lock taken, and the workbench is left as it
was. -/
theorem storeStep_atomic_unrecorded_reward :
    ∃ s', storeStep "attach_reward"
        (.object [("key", .string "k"), ("index", Json.nat 3), ("reward", Json.nat 1)])
        { store := (VariableStore.empty 4 ⟨0, 0⟩).performAll [.register "k" none] } =
      .error (.failed (StoreError.failure
          (.invalidArgument "prediction index 3 out of range (0 recorded)"))) s' ∧
      s' = { store := (VariableStore.empty 4 ⟨0, 0⟩).performAll [.register "k" none] } := by
  have refused : storeStep "attach_reward"
        (.object [("key", .string "k"), ("index", Json.nat 3), ("reward", Json.nat 1)])
        { store := (VariableStore.empty 4 ⟨0, 0⟩).performAll [.register "k" none] } =
      .error (.failed (StoreError.failure
          (.invalidArgument "prediction index 3 out of range (0 recorded)")))
        { store := (VariableStore.empty 4 ⟨0, 0⟩).performAll [.register "k" none] } := by
    rfl
  exact ⟨_, refused, storeStep_atomic _ _ rfl refused⟩

end Request

end PromptTrainer
