import Mathlib.Data.List.Perm.Subperm
import Mathlib.Logic.Relation
import PromptTrainer.Optimizer.Interleaving
import PromptTrainer.Proofs.Commit
/-!
# Calls on one key run as if one after another

Any number of calls on one key, interleaved in every way the key's lock allows, leave the
workbench as the same calls made one after another, in the order they took the lock
(`KeyRun.interleaving_serializes`).  A call that never took the lock does nothing, a call
dropped as soon as it held the lock does nothing, and a pass dropped before its commit leaves
only what its run did to the language models.  No write is lost to a pass: a write made while
a pass ran would need the lock the pass holds.

The proof follows the lock.  While no call holds it, the workbench is the episodes run one
after another; the call holding it took it on that workbench, and the workbench is what the
call has done there so far (`Holder.Resumes`).  Every step keeps this (`KeyRun.Serial.step`),
hence every run does (`KeyRun.serial_of_reaches`).

The stored version counts the calls that wrote the variable: a call made alone leaves the
store as it was or puts the variable one version on (`KeyCall.stepsVersion`), so the episodes
run one after another raise it by the number of them that wrote (`Episode.version_replay`).
-/

namespace PromptTrainer

open Relation

/-! ### Calls made alone with the lock free -/

/-- With the lock free, a one-step call made alone is its step under the lock. -/
theorem KeyWrite.alone_of_free
    {key : String}
    {s : Workbench}
    {w : KeyWrite}
    (free : s.store.lockState key = .free)
    (admitted : w.admitted = true) :
    w.alone key s = w.held key s := by
  cases w with
  | append p => simp [alone, held, Work.after, free]
  | attachReward index r =>
    have accepted : VariableStore.rewardRefusal r = none := by
      simpa [KeyWrite.admitted, Option.isNone_iff_eq_none] using admitted
    simp [alone, held, Work.after, free, accepted]
  | set u => simp [alone, held, Work.after, free]
  | finalize => simp [alone, held, Optimizer.finalizeStored, Work.after, free]

/-- With the lock free, a pass made alone is its commit after its run on the copy. -/
theorem Optimizer.optimizeStored_of_passed
    {key : String}
    {r : Float}
    {s s₁ : Workbench}
    {before : Variable}
    {result : PassResult}
    (free : s.store.lockState key = .free)
    (ran : passStored key r s = .ok (before, result) s₁) :
    optimizeStored key r s = commitPass before result s₁ := by
  simp [optimizeStored, free, ran]

namespace Episode

@[simp] theorem replay_nil (key : String) (s : Workbench) : replay key [] s = s := rfl

@[simp] theorem replay_append_single (key : String) (episodes : List Episode) (e : Episode)
    (s : Workbench) :
    replay key (episodes ++ [e]) s = e.run key (replay key episodes s) := by
  simp [replay]

@[simp] theorem replay_cons (key : String) (e : Episode) (episodes : List Episode)
    (s : Workbench) :
    replay key (e :: episodes) s = replay key episodes (e.run key s) := rfl

end Episode

/-! ### The invariant of an interleaving -/

/-- The call holding the lock took it on the workbench `b`, and the workbench is now what it
has done there so far: nothing yet, its run on the copy, or all it does when made alone. -/
inductive Holder.Resumes (key : String) (b : Workbench) : Holder → Workbench → Prop where
  | taken {call : KeyCall} {now : Workbench}
      (free : b.store.lockState key = .free)
      (admitted : call.admitted = true)
      (unchanged : now = b) :
      Resumes key b ⟨call, .taken⟩ now
  | passed {r : Float} {before : Variable} {result : Optimizer.PassResult} {now : Workbench}
      (free : b.store.lockState key = .free)
      (ran : Optimizer.passStored key r b = .ok (before, result) now) :
      Resumes key b ⟨.optimize r, .passed before result⟩ now
  | written {call : KeyCall} {now : Workbench}
      (done : now = call.alone key b) :
      Resumes key b ⟨call, .written⟩ now

/-- An interleaving of the calls `calls` on `key` from the workbench `s`, as far as it has
come, matches the same calls made one after another. -/
structure KeyRun.Serial (key : String) (calls : List KeyCall) (s : Workbench) (c : KeyRun) :
    Prop where
  /-- The calls that took the lock, the holder and the waiting calls are calls made, each
  once. -/
  sameCalls :
    List.Subperm (c.episodes.map Episode.call ++ c.holder.toList.map Holder.call ++ c.waiting)
      calls
  /-- With no holder, the workbench is the episodes run one after another. -/
  quiet : c.holder = none → c.bench = Episode.replay key c.episodes s
  /-- The holder took the lock on the episodes run one after another. -/
  holding : ∀ h, c.holder = some h → h.Resumes key (Episode.replay key c.episodes s) c.bench
  /-- No call has taken the lock, or the key was free from the start. -/
  untouched : (c.episodes = [] ∧ c.holder = none) ∨ s.store.lockState key = .free

namespace KeyRun

variable {key : String} {calls : List KeyCall} {s : Workbench}

theorem serial_start : (start s calls).Serial key calls s where
  sameCalls := by simpa [start] using (List.Sublist.refl calls).subperm
  quiet _ := rfl
  holding _ held := by cases held
  untouched := .inl ⟨rfl, rfl⟩

/-- Once a call has taken the lock, the key was free from the start. -/
theorem Serial.free_of_holds
    {c : KeyRun}
    {h : Holder}
    (serial : c.Serial key calls s)
    (holds : c.holder = some h) :
    s.store.lockState key = .free := by
  rcases serial.untouched with ⟨-, vacant⟩ | free
  · rw [holds] at vacant
    cases vacant
  · exact free

/-- Letting the lock go after the holder ended as the episode `e` keeps the invariant, when
`e` run on the workbench the holder took the lock on gives the workbench now. -/
theorem Serial.letGo
    {c : KeyRun}
    {h : Holder}
    {e : Episode}
    (serial : c.Serial key calls s)
    (holds : c.holder = some h)
    (sameCall : e.call = h.call)
    (ran : e.run key (Episode.replay key c.episodes s) = c.bench) :
    ({ c with holder := none, episodes := c.episodes ++ [e] } : KeyRun).Serial key calls s where
  sameCalls := by simpa [holds, sameCall] using serial.sameCalls
  quiet _ := by simp [ran]
  holding _ held := by cases held
  untouched := .inr (serial.free_of_holds holds)

/-- Moving the holder on, with the episodes and the waiting calls as they were, keeps the
invariant when the holder resumes the same workbench. -/
theorem Serial.moveOn
    {c : KeyRun}
    {h h' : Holder}
    {now : Workbench}
    (serial : c.Serial key calls s)
    (holds : c.holder = some h)
    (sameCall : h'.call = h.call)
    (resumes : h'.Resumes key (Episode.replay key c.episodes s) now) :
    ({ c with bench := now, holder := some h' } : KeyRun).Serial key calls s where
  sameCalls := by simpa [holds, sameCall] using serial.sameCalls
  quiet vacant := by cases vacant
  holding _ held := by
    cases held
    exact resumes
  untouched := .inr (serial.free_of_holds holds)

/-- Every step keeps the invariant. -/
theorem Serial.step
    {c c' : KeyRun}
    (serial : c.Serial key calls s)
    (step : Step key c c') :
    c'.Serial key calls s := by
  cases step with
  | @leave front back call waits =>
    have sameCalls := serial.sameCalls
    rw [waits] at sameCalls
    have shorter : List.Sublist (front ++ back) (front ++ call :: back) :=
      (List.Sublist.refl front).append (List.sublist_cons_self call back)
    exact ⟨((shorter.append_left _).subperm).trans sameCalls, serial.quiet, serial.holding,
      serial.untouched⟩
  | @acquire front back call waits admitted vacant free =>
    have sameCalls := serial.sameCalls
    rw [waits, vacant] at sameCalls
    have moved : List.Perm (call :: (front ++ back)) (front ++ call :: back) :=
      List.perm_middle.symm
    have bench : c.bench = Episode.replay key c.episodes s := serial.quiet vacant
    refine ⟨?_, (fun held => by cases held), ?_, ?_⟩
    · simpa using ((moved.append_left _).subperm).trans (by simpa using sameCalls)
    · intro h held
      cases held
      exact .taken (bench ▸ free) admitted bench
    · rcases serial.untouched with ⟨empty, -⟩ | free₀
      · rw [empty, Episode.replay_nil] at bench
        exact .inr (bench ▸ free)
      · exact .inr free₀
  | @write w holds =>
    cases serial.holding _ holds with
    | taken free admitted unchanged =>
      refine serial.moveOn holds rfl (.written ?_)
      rw [unchanged]
      exact (KeyWrite.alone_of_free free admitted).symm
  | @pass r before result bench holds ran =>
    cases serial.holding _ holds with
    | taken free _ unchanged =>
      exact serial.moveOn holds rfl (.passed free (unchanged ▸ ran))
  | @commit r before result holds =>
    cases serial.holding _ holds with
    | passed free ran =>
      exact serial.moveOn holds rfl
        (.written (Work.after_eq_of_run (Optimizer.optimizeStored_of_passed free ran).symm))
  | @release call holds =>
    cases serial.holding _ holds with
    | written done => exact serial.letGo holds rfl done.symm
  | @dropTaken call holds _ =>
    cases serial.holding _ holds with
    | taken _ _ unchanged => exact serial.letGo holds rfl unchanged.symm
  | @dropPassed r before result holds =>
    cases serial.holding _ holds with
    | passed _ ran => exact serial.letGo holds rfl (Work.after_of_ok ran)

/-- Every interleaving of the calls keeps the invariant. -/
theorem serial_of_reaches
    {c : KeyRun}
    (reach : ReflTransGen (Step key) (start s calls) c) :
    c.Serial key calls s := by
  induction reach with
  | refl => exact serial_start
  | tail _ step serial => exact serial.step step

end KeyRun

/-! ### The version counts the writes -/

/-- Whether the one-step call, made alone with the lock free, writes the variable: the store
took its change, or the end of an epoch found the variable. -/
def KeyWrite.writes (key : String) (s : Workbench) : KeyWrite → Bool
  | .append p => (s.store.appendPrediction key p).isOk
  | .attachReward index r =>
    (VariableStore.rewardRefusal r).isNone && (s.store.attachReward key index r).isOk
  | .set u => (s.store.set key u).isOk
  | .finalize => (s.store.get? key).isSome

/-- Whether the call, made alone with the lock free, writes the variable; a pass writes when
it commits. -/
def KeyCall.writes (key : String) (s : Workbench) : KeyCall → Bool
  | .write w => w.writes key s
  | .optimize r =>
    match Optimizer.passStored key r s with
    | .ok (before, outcome, after) _ => Optimizer.commits outcome after before
    | .error _ _ => false

/-- Whether the episode wrote the variable: a call dropped before its writes did not. -/
def Episode.writes (key : String) (s : Workbench) : Episode → Bool
  | .completed call => call.writes key s
  | .droppedAtOnce _ | .droppedAfterPass _ => false

/-- How many of the episodes, run one after another, wrote the variable. -/
def Episode.writeCount (key : String) : List Episode → Workbench → Nat
  | [], _ => 0
  | e :: rest, s => (if e.writes key s then 1 else 0) + writeCount key rest (e.run key s)

/-- What a call did to a store holding `v` under `key`: it kept the locks; if it did not
write, the store is as it was; if it wrote, the key holds a variable one version on. -/
def StepsVersion (key : String) (v : Variable) (st st' : VariableStore) (wrote : Bool) :
    Prop :=
  st'.locked = st.locked ∧
    (wrote = false → st'.get? key = st.get? key) ∧
    (wrote = true → ∃ w, st'.get? key = some w ∧ w.version = v.version + 1)

namespace StepsVersion

variable {key : String} {v : Variable} {st : VariableStore}

theorem unchanged : StepsVersion key v st st false :=
  ⟨rfl, (fun _ => rfl), (fun wrote => by cases wrote)⟩

/-- A change under the lock that keeps the key and the version writes the variable. -/
theorem touched
    {changed : Variable}
    (stored : st.get? key = some v)
    (sameKey : changed.key = key)
    (sameVersion : changed.version = v.version) :
    StepsVersion key v st
      { st with entries := VariableStore.overwrite st.entries (changed.touch st.clock) } true :=
  ⟨rfl, (fun wrote => by cases wrote), fun _ =>
    ⟨_, VariableStore.get?_touch_self stored sameKey, by simp [Variable.touch, sameVersion]⟩⟩

/-- A change under the lock that fails and leaves the variable as it was writes nothing. -/
theorem refused (stored : st.get? key = some v) :
    StepsVersion key v st { st with entries := VariableStore.overwrite st.entries v } false := by
  obtain rfl := VariableStore.key_of_get? stored
  exact ⟨rfl, fun _ => (VariableStore.get?_overwrite_self st v stored).trans stored.symm,
    fun wrote => by cases wrote⟩

/-- A committed write of the stored key writes the variable. -/
theorem replaced
    {after : Variable}
    (stored : st.get? key = some v)
    (sameKey : after.key = key) :
    StepsVersion key v st (st.replace after) true := by
  rw [← sameKey] at stored ⊢
  exact ⟨VariableStore.locked_replace stored, (fun wrote => by cases wrote), fun _ =>
    ⟨_, VariableStore.get?_replace_self stored, rfl⟩⟩

end StepsVersion

/-- A pass on a stored variable reads it and runs the pass on it, or aborts; either way it
leaves the store as it was. -/
theorem Optimizer.passStored_of_stored
    {key : String}
    {s : Workbench}
    {v : Variable}
    (stored : s.store.get? key = some v)
    (r : Float) :
    (∃ outcome after s₁, pass v r s = .ok (outcome, after) s₁ ∧
      passStored key r s = .ok (v, outcome, after) s₁ ∧ ReferenceStep v r s outcome after s₁) ∨
    ∃ s₁, pass v r s = .error (.aborted Ranking.orderViolation) s₁ ∧
      passStored key r s = .error (.aborted Ranking.orderViolation) s₁ ∧ s₁.store = s.store := by
  rcases pass_reference_step_or_panics v r s with
    ⟨outcome, after, s₁, passed, step⟩ | ⟨s₁, aborted, panics⟩
  · exact .inl ⟨outcome, after, s₁, passed,
      by simp [passStored, stored_of_get? stored, passed], step⟩
  · exact .inr ⟨s₁, aborted, by simp [passStored, stored_of_get? stored, aborted],
      panics.store_eq⟩

/-- Whatever a pass on a stored variable does, it leaves the store as it was. -/
theorem Optimizer.passStored_store
    {key : String}
    {s : Workbench}
    {v : Variable}
    (stored : s.store.get? key = some v)
    (r : Float) :
    (Work.after (passStored key r) s).store = s.store := by
  rcases passStored_of_stored stored r with ⟨_, _, _, _, ran, step⟩ | ⟨_, _, ran, untouched⟩
  · simpa [Work.after_of_ok ran] using step.store_eq
  · simpa [Work.after, ran] using untouched

section Calls

variable {key : String} {s : Workbench} {v : Variable}

/-- A one-step call made alone with the lock free, on a store holding `v` under the key,
writes the variable or leaves the store as it was. -/
theorem KeyWrite.stepsVersion
    (w : KeyWrite)
    (free : s.store.lockState key = .free)
    (stored : s.store.get? key = some v) :
    StepsVersion key v s.store (w.alone key s).store (w.writes key s) := by
  have keyed := VariableStore.key_of_get? stored
  cases w with
  | append p =>
    rw [alone_of_free free rfl]
    simp only [held, writes, Work.after_change, VariableStore.appendPrediction_of_stored stored,
      StoreResult.store_ok, StoreResult.isOk_ok]
    exact .touched stored keyed rfl
  | attachReward index r =>
    cases accepted : VariableStore.rewardRefusal r with
    | some e =>
      simpa [alone, writes, accepted] using StepsVersion.unchanged
    | none =>
      rw [alone_of_free free (by simp [admitted, accepted])]
      by_cases recorded : index < v.predictions.length
      · simp only [held, writes, Work.after_change,
          VariableStore.attachReward_of_recorded stored recorded, accepted, StoreResult.store_ok,
          StoreResult.isOk_ok, Option.isNone_none, Bool.and_self]
        exact .touched stored keyed rfl
      · simp only [held, writes, Work.after_change,
          VariableStore.attachReward_of_unrecorded stored recorded, accepted,
          StoreResult.store_error, StoreResult.isOk_error, Option.isNone_none, Bool.and_false]
        exact .refused stored
  | set u =>
    rw [alone_of_free free rfl]
    simp only [held, writes, Work.after_change, VariableStore.set_of_stored stored,
      StoreResult.store_ok, StoreResult.isOk_ok]
    exact .touched stored keyed rfl
  | finalize =>
    rw [alone_of_free free rfl]
    have replaced : Optimizer.finalizeHeld key s =
        .ok () { s with store := s.store.replace (Optimizer.finalize v) } := by
      simp [Optimizer.finalizeHeld, Optimizer.stored_of_get? stored]
    simp only [held, writes, Work.after_of_ok replaced, stored, Option.isSome_some]
    exact .replaced stored keyed

/-- A pass made alone with the lock free, on a store holding `v` under the key, commits the
variable one version on or leaves the store as it was. -/
theorem KeyCall.stepsVersion_optimize
    (r : Float)
    (free : s.store.lockState key = .free)
    (stored : s.store.get? key = some v) :
    StepsVersion key v s.store ((KeyCall.optimize r).alone key s).store
      ((KeyCall.optimize r).writes key s) := by
  rcases Optimizer.passStored_of_stored stored r with
    ⟨outcome, after, s₁, passed, ran, step⟩ | ⟨s₁, aborted, ran, untouched⟩
  · have untouched : s₁.store = s.store := step.store_eq
    have sameKey : after.key = key := step.key_eq.trans (VariableStore.key_of_get? stored)
    simp only [alone, writes, ran,
      Work.after_of_ended (Optimizer.optimizeStored_of_free free stored passed)]
    cases Optimizer.commits outcome after v
    · simpa [untouched] using StepsVersion.unchanged
    · simpa [untouched] using StepsVersion.replaced stored sameKey
  · -- an aborted pass commits nothing
    simpa [alone, writes, ran, Work.after, Optimizer.optimizeStored_of_aborted free stored aborted,
      untouched] using StepsVersion.unchanged

theorem KeyCall.stepsVersion
    (call : KeyCall)
    (free : s.store.lockState key = .free)
    (stored : s.store.get? key = some v) :
    StepsVersion key v s.store (call.alone key s).store (call.writes key s) := by
  cases call with
  | write w => exact w.stepsVersion free stored
  | optimize r => exact KeyCall.stepsVersion_optimize r free stored

/-- An episode run on a store holding `v` under the key writes the variable or leaves the
store as it was; a call dropped before its writes leaves it as it was. -/
theorem Episode.stepsVersion
    (e : Episode)
    (free : s.store.lockState key = .free)
    (stored : s.store.get? key = some v) :
    StepsVersion key v s.store (e.run key s).store (e.writes key s) := by
  cases e with
  | completed call => exact call.stepsVersion free stored
  | droppedAtOnce => exact .unchanged
  | droppedAfterPass r =>
    -- the pass ran on a copy, which touches no stored variable
    simpa [run, writes, Optimizer.passStored_store stored r] using StepsVersion.unchanged

end Calls

/-- The episodes run one after another from a store holding `v` under a free key leave it
stored, its version raised by the number of episodes that wrote it. -/
theorem Episode.version_replay
    {key : String}
    (episodes : List Episode) :
    ∀ (s : Workbench) (v : Variable), s.store.lockState key = .free →
      s.store.get? key = some v →
      ∃ w, (replay key episodes s).store.get? key = some w ∧
        w.version = v.version + UInt64.ofNat (writeCount key episodes s) := by
  induction episodes with
  | nil => exact fun s v _ stored => ⟨v, stored, by simp [writeCount]⟩
  | cons e rest restVersion =>
    intro s v free stored
    obtain ⟨sameLocks, unchanged, advanced⟩ := e.stepsVersion free stored
    -- the first episode leaves the key stored and free, one version on if it wrote
    obtain ⟨u, storedNext, versionNext⟩ : ∃ u, (e.run key s).store.get? key = some u ∧
        u.version = v.version + (if e.writes key s then 1 else 0) := by
      cases wrote : e.writes key s
      · exact ⟨v, (unchanged wrote).trans stored, by simp⟩
      · obtain ⟨u, storedNext, versionNext⟩ := advanced wrote
        exact ⟨u, storedNext, by simp [versionNext]⟩
    have freeNext := VariableStore.lockState_free_of_get? storedNext sameLocks free
    obtain ⟨w, storedLast, versionLast⟩ := restVersion (e.run key s) u freeNext storedNext
    refine ⟨w, storedLast, ?_⟩
    rw [versionLast, versionNext, writeCount]
    cases e.writes key s <;> simp [UInt64.ofNat_add, UInt64.add_assoc]

/-! ### Interleavings run as if one after another -/

/-- The calls `calls` on `key` from the workbench `s` have left the run `c` as if made one
after another: the workbench is the episodes run in the order their calls took the lock;
those calls are calls made, each once; and the stored version has gone up by the number of
them that wrote the variable. -/
def KeyRun.RunsSerially (key : String) (calls : List KeyCall) (s : Workbench) (c : KeyRun) :
    Prop :=
  c.bench = Episode.replay key c.episodes s ∧
    List.Subperm (c.episodes.map Episode.call) calls ∧
    ∀ v, s.store.get? key = some v →
      ∃ w, c.bench.store.get? key = some w ∧
        w.version = v.version + UInt64.ofNat (Episode.writeCount key c.episodes s)

/-- Any interleaving of calls on one key, once no call holds the lock, has left the workbench
as the calls that took the lock made one after another, in the order they took it; a call
dropped before its writes wrote nothing, and the version counts the calls that wrote. -/
theorem KeyRun.interleaving_serializes
    {key : String}
    {calls : List KeyCall}
    {s : Workbench}
    {c : KeyRun}
    (reach : ReflTransGen (Step key) (start s calls) c)
    (quiet : c.holder = none) :
    c.RunsSerially key calls s := by
  have serial := serial_of_reaches reach
  have bench := serial.quiet quiet
  refine ⟨bench, ?_, fun v stored => ?_⟩
  · have sameCalls := serial.sameCalls
    rw [quiet] at sameCalls
    exact (List.sublist_append_left _ _).subperm.trans (by simpa using sameCalls)
  · rw [bench]
    rcases serial.untouched with ⟨empty, -⟩ | free
    · rw [empty]
      exact ⟨v, stored, by simp [Episode.writeCount]⟩
    · exact Episode.version_replay c.episodes s v free stored

/-- One append on a store holding a new variable under `k` takes the lock, writes and lets
the lock go, as if made alone. -/
theorem KeyRun.interleaving_serializes_append :
    ∃ c, ReflTransGen (Step "k")
        (start { store := ⟨4, [Variable.ofKey "k" .epoch], [], .epoch⟩ }
          [.write (.append (Prediction.ofParts [] []))]) c ∧
      c.holder = none ∧ c.episodes = [.completed (.write (.append (Prediction.ofParts [] [])))] ∧
      c.RunsSerially "k" [.write (.append (Prediction.ofParts [] []))]
        { store := ⟨4, [Variable.ofKey "k" .epoch], [], .epoch⟩ } := by
  have reach : ReflTransGen (Step "k")
      (start { store := ⟨4, [Variable.ofKey "k" .epoch], [], .epoch⟩ }
        [.write (.append (Prediction.ofParts [] []))]) _ :=
    .tail (.tail (.tail .refl (@Step.acquire "k" _ [] [] _ rfl rfl rfl rfl)) (.write rfl))
      (.release rfl)
  exact ⟨_, reach, rfl, rfl, KeyRun.interleaving_serializes reach rfl⟩

end PromptTrainer
