import Mathlib.Data.List.Nodup
import GuestInit.Ipc.Table
import GuestInit.Proofs.SweepLoops

/-! Sweeps of a table whose objects may vanish while it is swept. A sweep lists all objects before
it removes any, so its list may be out of date when it comes to an object. Still none escapes and
none is counted that went away by itself; and where nothing interferes, nothing differs from a sweep
that removes each object as soon as it is found. Main statement: `sweep_empties`. -/

namespace GuestInit

/-- What is a step of one kind of surroundings, seen in some way, may be a step of another. -/
theorem Behaviour.Path.map {I : Interface} {σ τ : Type} {R : Behaviour I σ} {R' : Behaviour I τ}
    {view : σ → τ} (hview : ∀ s q answer s', R s q answer s' → R' (view s) q answer (view s'))
    {s s' : σ} {es : List (Exchange I)} (h : R.Path s es s') : R'.Path (view s) es (view s') := by
  induction h with
  | nil s => exact .nil (view s)
  | cons step _ ih => exact .cons (hview _ _ _ _ step) ih

namespace Ipc

open Program

namespace Table

/-- A slot holds one object, and an object has one slot. -/
structure Proper (table : Table) : Prop where
  nonneg : ∀ slot ∈ table.slots, 0 ≤ slot.1
  indices : (table.slots.map Prod.fst).Nodup
  ids : table.ids.Nodup

section

variable {table : Table} {left : List (Int × Int)} {index id : Int} {slot : Int × Int}

theorem Proper.sublist (h : table.Proper) (hleft : left.Sublist table.slots) :
    ({ table with slots := left } : Table).Proper where
  nonneg slot hslot := h.nonneg slot (hleft.subset hslot)
  indices := (hleft.map Prod.fst).nodup h.indices
  ids := (hleft.map Prod.snd).nodup h.ids

theorem mem_slots_of_describe (h : table.describe index = some id) : (index, id) ∈ table.slots := by
  obtain ⟨before, after, hslots, -⟩ := List.lookup_eq_some_iff.mp h
  simp [hslots]

theorem describe_of_mem (h : (table.slots.map Prod.fst).Nodup) (hslot : slot ∈ table.slots) :
    table.describe slot.1 = some slot.2 := by
  cases hdescribe : table.describe slot.1 with
  | none =>
    have hnone := List.lookup_eq_none_iff.mp hdescribe slot hslot
    simp at hnone
  | some id =>
    have hsame := List.inj_on_of_nodup_map h (mem_slots_of_describe hdescribe) hslot rfl
    rw [← hsame]

end

end Table

/-- A table from which objects vanish, and the number of those that did so by themselves. -/
structure Decay where
  table : Table
  vanished : Nat

namespace Decay

/-- Some objects vanish by themselves, and none comes up. -/
inductive Loses (before : Decay) : Decay → Prop
  | intro {left : List (Int × Int)} (h : left.Sublist before.table.slots) :
      Loses before
        ⟨{ before.table with slots := left },
          before.vanished + (before.table.slots.length - left.length)⟩

/-- How the table answers. The highest index is not below any in use, and just those objects can be
removed that are there. An empty table may answer any index, so also one that is not negative. -/
def Answers (now : Decay) : (q : Request) → Answer q → Decay → Prop
  | .maxIndex, answer, after =>
    (∃ most, answer = .ok most ∧ ∀ slot ∈ now.table.slots, slot.1 ≤ most) ∧ after = now
  | .describe index, answer, after => answer = now.table.describe index ∧ after = now
  | .remove id, answer, after =>
    if id ∈ now.table.ids then
      answer = .ok () ∧
        after = ⟨{ now.table with slots := now.table.slots.filter (·.2 ≠ id) }, now.vanished⟩
    else (∃ cause, answer = .error cause) ∧ after = now
  | .note _, _, after => after = now

/-- Before each answer, any number of objects may have vanished. -/
def decaying : Behaviour TableAccess Decay := fun before q answer after =>
  ∃ now, before.Loses now ∧ now.Answers q answer after

/-- Of so many objects at the start, each one is there, has vanished, or was removed. -/
structure Accounts (total removed : Nat) (now : Decay) : Prop where
  proper : now.table.Proper
  count : removed + now.table.slots.length + now.vanished = total

section

variable {total removed : Nat} {before now after : Decay}

theorem Loses.subset (h : before.Loses now) : now.table.slots ⊆ before.table.slots := by
  cases h with
  | intro hleft => exact hleft.subset

theorem Accounts.loses (h : Accounts total removed before) (hlost : before.Loses now) :
    Accounts total removed now := by
  cases hlost with
  | intro hleft =>
    have hlength := hleft.length_le
    have hcount := h.count
    exact ⟨h.proper.sublist hleft, by dsimp only; omega⟩

/-- The removal of an object empties one slot. -/
theorem length_filter_ne {slots : List (Int × Int)} {id : Int} (hids : (slots.map Prod.snd).Nodup)
    (hid : id ∈ slots.map Prod.snd) : (slots.filter (·.2 ≠ id)).length + 1 = slots.length := by
  have hone : (slots.filter (·.2 = id)).length = 1 := by
    rw [← List.count_eq_one_of_mem hids hid, List.count, List.countP_map,
      List.countP_eq_length_filter]
    rfl
  have hsplit := List.length_eq_length_filter_add (l := slots) (fun slot => decide (slot.2 = id))
  simp only [ne_eq, decide_not]
  omega

theorem Accounts.removes {id : Int} (h : Accounts total removed now) (hid : id ∈ now.table.ids) :
    Accounts total (removed + 1)
      ⟨{ now.table with slots := now.table.slots.filter (·.2 ≠ id) }, now.vanished⟩ where
  proper := h.proper.sublist List.filter_sublist
  count := by
    have hlength := length_filter_ne h.proper.ids hid
    have hcount := h.count
    dsimp only
    omega

/-- What the question for a slot finds goes on the list, so that no slot asked for holds an object
that is not on it. -/
theorem describeFrom_lists (count : Nat) (h : Accounts total removed before) :
    (describeFrom count 0 []).Safe decaying anything
      (fun ids after => Accounts total removed after ∧ after.table.slots ⊆ before.table.slots ∧
        ∀ slot ∈ after.table.slots, slot.1 < count → slot.2 ∈ ids) before := by
  refine (describeFrom_invariant (motive := fun index found now => Accounts total removed now ∧
    now.table.slots ⊆ before.table.slots ∧
      ∀ slot ∈ now.table.slots, slot.1 < index → slot.2 ∈ found)
    (fun _ => trivial) ?_ count ⟨h, List.Subset.refl _, fun slot hslot hlow => ?_⟩).mono ?_
  · rintro index found earlier answer _ ⟨hearlier, hsubset, hfound⟩ ⟨now, hlost, rfl, rfl⟩
    have hnow := hearlier.loses hlost
    refine ⟨hnow, fun slot hslot => hsubset (hlost.subset hslot), fun slot hslot hlow => ?_⟩
    by_cases hindex : slot.1 = index
    · have hdescribed := Table.describe_of_mem hnow.proper.indices hslot
      simp [← hindex, hdescribed]
    · exact List.mem_append_right _ (hfound slot (hlost.subset hslot) (by omega))
  · have hnonneg := h.proper.nonneg slot hslot
    omega
  · rintro ids after ⟨hafter, hsubset, hids⟩
    refine ⟨hafter, hsubset, fun slot hslot hlow => ?_⟩
    simpa using hids slot hslot (by omega)

/-- Once the list has been gone through, no object is left. -/
theorem removeAll_empties {ipcClass : Class} {ids : List Int} (h : Accounts total removed before)
    (hids : ∀ slot ∈ before.table.slots, slot.2 ∈ ids) :
    (removeAll ipcClass ids removed).Safe decaying anything
      (fun counted after => Accounts total counted after ∧ after.table.slots = []) before := by
  refine (removeAll_invariant (motive := fun rest removed now => Accounts total removed now ∧
    ∀ slot ∈ now.table.slots, slot.2 ∈ rest) (fun _ => trivial) ?_ ?_ ⟨h, hids⟩).mono ?_
  · rintro id rest removed earlier _ ⟨hearlier, hlisted⟩ ⟨now, hlost, hanswer⟩
    have hnow := hearlier.loses hlost
    by_cases hid : id ∈ now.table.ids
    · obtain ⟨-, rfl⟩ := (if_pos hid).mp hanswer
      refine ⟨hnow.removes hid, fun slot hslot => ?_⟩
      obtain ⟨hslot, hother⟩ := List.mem_filter.mp hslot
      have hother : slot.2 ≠ id := by simpa using hother
      exact List.mem_of_ne_of_mem hother (hlisted slot (hlost.subset hslot))
    · obtain ⟨⟨cause, hrefused⟩, -⟩ := (if_neg hid).mp hanswer
      cases hrefused
  · rintro id rest removed earlier cause _ ⟨hearlier, hlisted⟩ ⟨now, hlost, hanswer⟩
    have hnow := hearlier.loses hlost
    by_cases hid : id ∈ now.table.ids
    · obtain ⟨hremoved, -⟩ := (if_pos hid).mp hanswer
      cases hremoved
    · obtain ⟨-, rfl⟩ := (if_neg hid).mp hanswer
      refine ⟨trivial, fun _ noted => ?_⟩
      obtain ⟨later, hlater, rfl⟩ := noted
      refine ⟨hnow.loses hlater, fun slot hslot => ?_⟩
      have hslot := hlater.subset hslot
      have hother : slot.2 ≠ id := fun hsame => hid (hsame ▸ List.mem_map_of_mem hslot)
      exact List.mem_of_ne_of_mem hother (hlisted slot (hlost.subset hslot))
  · rintro counted after ⟨hafter, hnone⟩
    refine ⟨hafter, List.eq_nil_iff_forall_not_mem.mpr fun slot hslot => ?_⟩
    exact List.not_mem_nil (hnone slot hslot)

theorem sweep_safe (ipcClass : Class) (h : Accounts total 0 before) :
    (sweep ipcClass).Safe decaying anything
      (fun result after => ∃ removed, result = .ok removed ∧ Accounts total removed after ∧
        after.table.slots = []) before := by
  rw [sweep_eq]
  refine ⟨trivial, fun answer after step => ?_⟩
  obtain ⟨now, hlost, ⟨most, rfl, hmost⟩, rfl⟩ := step
  refine (describeFrom_lists (most + 1).toNat (h.loses hlost)).bind ?_
  rintro ids listed ⟨hlisted, hsubset, hids⟩
  refine (removeAll_empties hlisted fun slot hslot => ?_).bind ?_
  · have hle := hmost slot (hsubset hslot)
    exact hids slot hslot (by omega)
  · rintro removed after ⟨hafter, hempty⟩
    exact ⟨removed, rfl, hafter, hempty⟩

/-- What a table answers in which nothing is. -/
def Vacant : Exchange TableAccess → Prop
  | ⟨.maxIndex, answer⟩ => ∃ most, answer = .ok most
  | ⟨.describe _, answer⟩ => answer = none
  | ⟨.remove _, _⟩ | ⟨.note _, _⟩ => True

theorem Loses.eq_of_empty (h : before.Loses now) (hempty : before.table.slots = []) :
    now = before := by
  rcases before with ⟨⟨slots, refused, infoError, claimed⟩, vanished⟩
  obtain rfl : slots = [] := hempty
  cases h with
  | intro hleft =>
    obtain rfl := List.eq_nil_of_sublist_nil hleft
    rfl

theorem vacant_of_step {q : Request} {answer : Answer q} (hempty : before.table.slots = [])
    (step : decaying before q answer after) : after = before ∧ Vacant ⟨q, answer⟩ := by
  obtain ⟨now, hlost, hanswer⟩ := step
  obtain rfl := hlost.eq_of_empty hempty
  cases q with
  | maxIndex =>
    obtain ⟨⟨most, hmost, -⟩, rfl⟩ := hanswer
    exact ⟨rfl, most, hmost⟩
  | describe index =>
    obtain ⟨hdescribed, rfl⟩ := hanswer
    refine ⟨rfl, ?_⟩
    rw [Table.describe, hempty] at hdescribed
    exact hdescribed
  | remove id =>
    have hid : id ∉ now.table.ids := by simp [Table.ids, hempty]
    obtain ⟨-, rfl⟩ := (if_neg hid).mp hanswer
    exact ⟨rfl, trivial⟩
  | note record => exact ⟨hanswer, trivial⟩

/-- In an empty table there is nothing to vanish, and nothing to be removed. -/
theorem vacant_of_path {es : List (Exchange TableAccess)} (h : decaying.Path before es after)
    (hempty : before.table.slots = []) : after = before ∧ ∀ e ∈ es, Vacant e := by
  induction es generalizing before with
  | nil => exact ⟨Behaviour.path_nil_iff.mp h, nofun⟩
  | cons e es ih =>
    obtain ⟨next, step, hrest⟩ := Behaviour.path_cons_iff.mp h
    obtain ⟨rfl, he⟩ := vacant_of_step hempty step
    obtain ⟨hafter, hes⟩ := ih hrest hempty
    exact ⟨hafter, List.forall_mem_cons.mpr ⟨he, hes⟩⟩

theorem sweep_vacant (ipcClass : Class) :
    (sweep ipcClass).Within Vacant (fun q => ∀ id, q ≠ .remove id) (· = .ok 0) := by
  rw [sweep_eq]
  refine within_ask_iff.mpr ⟨nofun, fun answer hanswer => ?_⟩
  obtain ⟨most, rfl⟩ := hanswer
  have hnone : (describeFrom (most + 1).toNat 0 []).Within Vacant (fun q => ∀ id, q ≠ .remove id)
      (· = []) := by
    refine (describeFrom_invariant (motive := fun _ found _ => found = [])
      (fun _ => nofun) ?_ _ rfl).mono ?_
    · rintro index found _ answer _ rfl rfl
      rfl
    · exact fun ids _ hids => List.reverse_eq_nil_iff.mp hids
  exact hnone.bind fun ids hids => by subst hids; rfl

end

section

variable {σ : Type} {view : σ → Decay} {answer : σ → (q : Request) → Answer q × σ}

theorem path_of_always (hanswer : ∀ s q, decaying (view s) q (answer s q).1 (view (answer s q).2))
    {s s' : σ} {es : List (Exchange TableAccess)}
    (h : (Machine.always answer).behaviour.Path s es s') :
    decaying.Path (view s) es (view s') := by
  refine h.map fun s q given s' step => ?_
  obtain ⟨hgiven, rfl⟩ := Prod.mk.inj step
  exact Option.some.inj hgiven ▸ hanswer s q

/-- Whoever answers like a decaying table, the sweep returns. -/
theorem sweep_run (ipcClass : Class)
    (hanswer : ∀ s q, decaying (view s) q (answer s q).1 (view (answer s q).2)) (s : σ) :
    ∃ result s', (sweep ipcClass).run (.always answer) s = (.returned result, s') ∧
      (sweep ipcClass).Trace ((sweep ipcClass).exchanges (.always answer) s) (.returned result) ∧
      decaying.Path (view s) ((sweep ipcClass).exchanges (.always answer) s) (view s') := by
  obtain ⟨result, s', hrun⟩ := (sweep_answerable ipcClass).finishes.returns answer s
  obtain ⟨htrace, hpath⟩ := trace_of_run hrun
  exact ⟨result, s', hrun, htrace, path_of_always hanswer hpath⟩

end

end Decay

section InPlace

/-- The same for objects that are removed as soon as they are found. -/
def removeFrom (ipcClass : Class) : (count : Nat) → (index : Int) → (removed : Nat) →
    Program TableAccess Nat
  | 0, _, removed => .done removed
  | count + 1, index, removed => .ask (.describe index) fun
    | none => removeFrom ipcClass count (index + 1) removed
    | some id => .ask (.remove id) fun
      | .ok () => removeFrom ipcClass count (index + 1) (removed + 1)
      | .error cause => .ask (.note (refusalRecord ipcClass id cause)) fun () =>
        removeFrom ipcClass count (index + 1) removed

/-- A sweep with one loop over the slots, in which each object is removed as soon as it is found. -/
def sweepInPlace (ipcClass : Class) : Program TableAccess (Except Fault Nat) :=
  .ask .maxIndex fun
    | .error cause => .done (.error (.ipcInfo ipcClass cause))
    | .ok most => removeFrom ipcClass (most + 1).toNat 0 0 >>= fun removed => .done (.ok removed)

/-- The identifiers in slots from an index on. -/
def Table.listed (table : Table) : (count : Nat) → (index : Int) → List Int
  | 0, _ => []
  | count + 1, index => (table.describe index).toList ++ table.listed count (index + 1)

variable {ipcClass : Class} {table : Table} {notes : List Record}

@[simp] theorem Table.machine_answer : Table.machine.answer = Table.answer := rfl

/-- The questions for the slots leave the table as it is. -/
theorem run_describeFrom (count : Nat) (index : Int) (found : List Int) :
    (describeFrom count index found).run Table.machine (table, notes) =
      (.returned (found.reverse ++ table.listed count index), (table, notes)) := by
  induction count generalizing index found with
  | zero => simp [describeFrom, Table.listed, run]
  | succ count ih =>
    simp only [describeFrom, Table.listed, run, Table.machine_answer, Table.answer]
    cases table.describe index with
    | none => exact ih (index + 1) found
    | some id => simpa using ih (index + 1) (id :: found)

/-- A filter that keeps what a key may find does not change what it finds. -/
theorem lookup_filter {slots : List (Int × Int)} {keep : Int × Int → Bool} {key : Int}
    (h : ∀ slot ∈ slots, slot.1 = key → keep slot) :
    (slots.filter keep).lookup key = slots.lookup key := by
  induction slots with
  | nil => rfl
  | cons slot slots ih =>
    obtain ⟨index, id⟩ := slot
    have hrest := ih fun other hother => h other (List.mem_cons_of_mem _ hother)
    by_cases hkey : key = index
    · have hkept := h (index, id) List.mem_cons_self hkey.symm
      simp [List.filter_cons_of_pos hkept, hkey]
    · have hpast : (key == index) = false := by simpa using hkey
      by_cases hkeep : keep (index, id)
      · rw [List.filter_cons_of_pos hkeep, List.lookup_cons, List.lookup_cons, hpast, hrest]
      · rw [List.filter_cons_of_neg hkeep, List.lookup_cons, hpast, hrest]

/-- The table without an object. -/
def Table.without (table : Table) (id : Int) : Table :=
  { table with slots := table.slots.filter (·.2 ≠ id) }

/-- Where no two slots hold one object, the removal of what is in one leaves the others alone. -/
theorem describe_without {index id : Int} (hids : table.ids.Nodup)
    (h : table.describe index = some id) {other : Int} (hother : other ≠ index) :
    (table.without id).describe other = table.describe other := by
  refine lookup_filter fun slot hslot hkey => ?_
  have hne : slot.2 ≠ id := fun hsame => hother <| by
    rw [← hkey, List.inj_on_of_nodup_map hids hslot (Table.mem_slots_of_describe h) hsame]
  simpa using hne

theorem listed_without {index id : Int} (hids : table.ids.Nodup)
    (h : table.describe index = some id) (count : Nat) {next : Int} (hnext : index < next) :
    (table.without id).listed count next = table.listed count next := by
  induction count generalizing next with
  | zero => rfl
  | succ count ih =>
    rw [Table.listed, Table.listed, describe_without hids h (by omega), ih (by omega)]

theorem remove_cases (table : Table) (id : Int) :
    table.remove id = (.ok (), table.without id) ∨
      ∃ cause, table.remove id = (.error cause, table) := by
  unfold Table.remove
  split
  · exact .inr ⟨_, rfl⟩
  · split
    · exact .inl rfl
    · exact .inr ⟨_, rfl⟩

theorem run_removeFrom (hids : table.ids.Nodup) (count : Nat) (index : Int) (removed : Nat) :
    (removeFrom ipcClass count index removed).run Table.machine (table, notes) =
      (removeAll ipcClass (table.listed count index) removed).run Table.machine (table, notes) := by
  induction count generalizing index removed table notes with
  | zero => rfl
  | succ count ih =>
    simp only [removeFrom, Table.listed, run, Table.machine_answer, Table.answer]
    cases hdescribe : table.describe index with
    | none => exact ih hids (index + 1) removed
    | some id =>
      simp only [Option.toList_some, List.singleton_append, removeAll, run, Table.machine_answer,
        Table.answer]
      rcases remove_cases table id with hremove | ⟨cause, hremove⟩
      · have hleft : (table.without id).ids.Nodup := (List.filter_sublist.map Prod.snd).nodup hids
        rw [hremove, ← listed_without hids hdescribe count (Int.lt_succ index)]
        exact ih hleft (index + 1) (removed + 1)
      · rw [hremove]
        exact ih hids (index + 1) removed

/-- With nothing but the sweep at work, it does not matter that objects are listed first. -/
theorem run_sweepInPlace (ipcClass : Class) (notes : List Record) (hids : table.ids.Nodup) :
    (sweepInPlace ipcClass).run Table.machine (table, notes) =
      (sweep ipcClass).run Table.machine (table, notes) := by
  rw [sweep_eq]
  simp only [sweepInPlace, run, Table.machine_answer, Table.answer]
  cases table.maxIndex with
  | error cause => rfl
  | ok most =>
    simp only [run_bind, run_describeFrom, run_removeFrom hids, List.reverse_nil, List.nil_append]

end InPlace

/-- Whichever objects vanish by themselves while a class is swept, the sweep returns, none is left,
and each one has either vanished or been counted. A second sweep finds nothing and removes nothing.
If none vanishes, the sweep ends as one does that removes each object as soon as it is found. -/
theorem sweep_empties (ipcClass : Class) :
    (∀ {σ : Type} (view : σ → Decay) (answer : σ → (q : Request) → Answer q × σ) (s : σ),
      (∀ s q, Decay.decaying (view s) q (answer s q).1 (view (answer s q).2)) →
      (view s).table.Proper →
      ∃ removed s', (sweep ipcClass).run (.always answer) s = (.returned (.ok removed), s') ∧
        (view s').table.slots = [] ∧
        removed + (view s').vanished = (view s).table.slots.length + (view s).vanished ∧
        ∃ s'', (sweep ipcClass).run (.always answer) s' = (.returned (.ok 0), s'') ∧
          view s'' = view s' ∧
          ∀ e ∈ (sweep ipcClass).exchanges (.always answer) s', ∀ id, e.request ≠ .remove id) ∧
    ∀ (table : Table) (notes : List Record), table.ids.Nodup →
      (sweep ipcClass).run Table.machine (table, notes) =
        (sweepInPlace ipcClass).run Table.machine (table, notes) := by
  refine ⟨fun view answer s hanswer hproper => ?_,
    fun table notes hids => (run_sweepInPlace ipcClass notes hids).symm⟩
  obtain ⟨result, s', hrun, htrace, hpath⟩ := Decay.sweep_run ipcClass hanswer s
  have hstart : Decay.Accounts ((view s).table.slots.length + (view s).vanished) 0 (view s) :=
    ⟨hproper, by omega⟩
  obtain ⟨removed, rfl, hends, hempty⟩ :=
    (Decay.sweep_safe ipcClass hstart).returns ⟨_, htrace, hpath⟩
  obtain ⟨again, s'', hagain, htrace', hpath'⟩ := Decay.sweep_run ipcClass hanswer s'
  obtain ⟨hsame, hvacant⟩ := Decay.vacant_of_path hpath' hempty
  have hwithin := Decay.sweep_vacant ipcClass
  obtain rfl : again = .ok 0 := hwithin.returned htrace' hvacant
  refine ⟨removed, s', hrun, hempty, by simpa [hempty] using hends.count, s'', hagain, hsame, ?_⟩
  intro e he
  refine hwithin.requests htrace' hvacant e.request ?_
  simpa [requests] using ⟨e, he, rfl⟩

/-- A table from which objects vanish by a schedule. -/
structure Scheduled where
  decay : Decay
  /-- The objects that vanish before the next request, those that do before the one after it, and so
  on. -/
  due : List (List Int)

namespace Scheduled

def now (scheduled : Scheduled) : Decay :=
  let slots := scheduled.decay.table.slots
  let left := slots.filter (·.2 ∉ scheduled.due.headD [])
  ⟨{ scheduled.decay.table with slots := left },
    scheduled.decay.vanished + (slots.length - left.length)⟩

/-- One request is answered by what is there by then. -/
def answer (scheduled : Scheduled) : (q : Request) → Answer q × Scheduled
  | .maxIndex => (.ok scheduled.now.table.highest, ⟨scheduled.now, scheduled.due.tail⟩)
  | .describe index => (scheduled.now.table.describe index, ⟨scheduled.now, scheduled.due.tail⟩)
  | .remove id =>
    if id ∈ scheduled.now.table.ids then
      (.ok (), ⟨⟨scheduled.now.table.without id, scheduled.now.vanished⟩, scheduled.due.tail⟩)
    else (.error (.errno Errno.invalidArgument), ⟨scheduled.now, scheduled.due.tail⟩)
  | .note _ => ((), ⟨scheduled.now, scheduled.due.tail⟩)

/-- Whatever the schedule, it is one of a decaying table. -/
theorem answer_decaying (scheduled : Scheduled) (q : Request) :
    Decay.decaying scheduled.decay q (scheduled.answer q).1 (scheduled.answer q).2.decay := by
  refine ⟨scheduled.now, .intro List.filter_sublist, ?_⟩
  cases q with
  | maxIndex =>
    refine ⟨⟨_, rfl, fun slot hslot => ?_⟩, rfl⟩
    have hindex : slot.1 ∈ scheduled.now.table.slots.map Prod.fst := List.mem_map_of_mem hslot
    cases hmost : (scheduled.now.table.slots.map Prod.fst).max? with
    | none => simp [List.max?_eq_none_iff.mp hmost] at hindex
    | some most =>
      rw [Table.highest, hmost]
      exact (List.max?_le_iff hmost).mp (Int.le_refl most) slot.1 hindex
  | describe index => exact ⟨rfl, rfl⟩
  | remove id =>
    by_cases hid : id ∈ scheduled.now.table.ids
    · rw [answer, if_pos hid]
      exact (if_pos hid).mpr ⟨rfl, rfl⟩
    · rw [answer, if_neg hid]
      exact (if_neg hid).mpr ⟨⟨_, rfl⟩, rfl⟩
  | note record => rfl

end Scheduled

/-- An object vanishes after it was listed, and before it could be removed. -/
theorem sweep_empties_scheduled :
    let start : Scheduled :=
      ⟨⟨.ofSlots [(0, 7), (3, 9), (4, 11)], 0⟩, [[], [], [], [], [], [], [9]]⟩
    ∃ s', (sweep .semaphores).run (.always Scheduled.answer) start = (.returned (.ok 2), s') ∧
      s'.decay.table.slots = [] ∧ s'.decay.vanished = 1 ∧
      ((sweep .semaphores).run (.always Scheduled.answer) s').1 = .returned (.ok 0) ∧
      (sweep .semaphores).run Table.machine (start.decay.table, []) =
        (sweepInPlace .semaphores).run Table.machine (start.decay.table, []) := by
  intro start
  obtain ⟨hdecays, hinPlace⟩ := sweep_empties .semaphores
  have hproper : start.decay.table.Proper := ⟨by decide, by decide, by decide⟩
  obtain ⟨removed, s', hrun, hempty, hcount, s'', hagain, -, -⟩ :=
    hdecays Scheduled.decay Scheduled.answer start Scheduled.answer_decaying hproper
  have hremoved : ((sweep .semaphores).run (.always Scheduled.answer) start).1 =
    .returned (.ok 2) := by decide +kernel
  rw [hrun] at hremoved
  cases hremoved
  have hstart : start.decay.table.slots.length + start.decay.vanished = 3 := rfl
  have hvanished : s'.decay.vanished = 1 := by omega
  exact ⟨s', hrun, hempty, hvanished, by rw [hagain], hinPlace start.decay.table [] hproper.ids⟩

end Ipc
end GuestInit
