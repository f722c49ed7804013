import RealtimePlatform.Backend.Resubscribe

namespace RealtimePlatform.Proof.Handover
open Library Backend Backend.KeyRelay

variable {α : Type*}

inductive Receives (r : KeyRelay α) : Nat → Nat → Option Nat → Prop
  | received {seq next} : r.stage = some (.received seq next) → Receives r seq next none
  | task {seq task} : AList.lookup seq r.tasks = some task → Receives r seq task.next task.inFlight

def Pending (r : KeyRelay α) (i : Nat) : Prop :=
  ∃ seq next hand, Receives r seq next hand ∧ (hand = some i ∨ next ≤ i)

def Seamless (r : KeyRelay α) : Prop :=
  ∀ first i, r.attached[0]? = some first → first ≤ i → i < r.published.length →
    r.put.count i ≤ 1 ∧ (Pending r i ∨ r.put.count i = 1)

def Finished (r : KeyRelay α) (seq : Nat) : Prop :=
  ∃ later, r.attached[seq + 1]? = some later ∧ ∀ task, AList.lookup seq r.tasks = some task →
    later ≤ task.next ∧ ∀ i, task.inFlight = some i → later ≤ i

def HandsOver (r : KeyRelay α) : SubEvent α → Prop
  | .send seq => ∀ task i later, AList.lookup seq r.tasks = some task → task.inFlight = some i →
      r.attached[seq + 1]? = some later → i < later
  | .recv seq => ∀ task, AList.lookup seq r.tasks = some task →
      channelCapacity < r.published.length - task.next → Finished r seq
  | .taskDrop seq => Finished r seq
  | _ => True

def Owns (attached : List Nat) (seq i : Nat) : Prop :=
  (∃ start, attached[seq]? = some start ∧ start ≤ i) ∧
    ∀ later, attached[seq + 1]? = some later → i < later

theorem exists_owner {attached : List Nat} {first i : Nat} (head : attached[0]? = some first)
    (since : first ≤ i) : ∃ seq, Owns attached seq i := by
  induction attached generalizing first with
  | nil => cases head
  | cons start rest ih =>
      cases later : rest[0]? with
      | none =>
          refine ⟨0, ⟨first, head, since⟩, fun next found => ?_⟩
          rw [List.getElem?_cons_succ, later] at found
          cases found
      | some next =>
          by_cases reached : next ≤ i
          · obtain ⟨seq, own, before⟩ := ih later reached
            exact ⟨seq + 1, own, before⟩
          · refine ⟨0, ⟨first, head, since⟩, fun next' found => ?_⟩
            rw [List.getElem?_cons_succ, later, Option.some.injEq] at found
            omega

theorem owner_unique {attached : List Nat} (sorted : attached.Pairwise (· ≤ ·)) {seq other i : Nat}
    (owns : Owns attached seq i) (owns' : Owns attached other i) : seq = other := by
  have apart : ∀ {a b}, Owns attached a i → Owns attached b i → ¬ a < b := by
    rintro a b ⟨_, before⟩ ⟨⟨start, own, since⟩, _⟩ below
    obtain ⟨room, value⟩ := List.getElem?_eq_some_iff.mp own
    have next : a + 1 < attached.length := Nat.lt_of_le_of_lt below room
    have ends := before attached[a + 1] (List.getElem?_eq_getElem next)
    have ordered : attached[a + 1] ≤ attached[b] := by
      rcases Nat.eq_or_lt_of_le (Nat.succ_le_of_lt below) with same | further
      · exact Nat.le_of_eq (by simp only [← same])
      · exact List.pairwise_iff_getElem.mp sorted (a + 1) b next room further
    omega
  have := apart owns owns'
  have := apart owns' owns
  omega

theorem owns_concat {attached : List Nat} {size seq i : Nat}
    (owns : Owns (attached ++ [size]) seq i) :
    Owns attached seq i ∨ seq = attached.length ∧ size ≤ i := by
  obtain ⟨⟨start, own, since⟩, before⟩ := owns
  rcases Nat.lt_trichotomy seq attached.length with older | last | beyond
  · rw [List.getElem?_append_left older] at own
    refine Or.inl ⟨⟨start, own, since⟩, fun later found => before later ?_⟩
    obtain ⟨room, _⟩ := List.getElem?_eq_some_iff.mp found
    rw [List.getElem?_append_left room]
    exact found
  · subst last
    rw [List.getElem?_concat_length, Option.some.injEq] at own
    exact Or.inr ⟨rfl, own ▸ since⟩
  · rw [List.getElem?_eq_none (by simp; omega)] at own
    cases own

structure Working (r : KeyRelay α) (seq : Nat) (task : Forwarder) : Prop where
  began : ∃ start, r.attached[seq]? = some start ∧ start ≤ task.next ∧
    ∀ i, task.inFlight = some i → start ≤ i
  within : task.next ≤ r.published.length
  holding : ∀ i, task.inFlight = some i → i + 1 = task.next
  put : ∀ i, Owns r.attached seq i → (i ∈ r.put ↔ i < task.next ∧ task.inFlight ≠ some i)

structure Sound (r : KeyRelay α) : Prop where
  sorted : r.attached.Pairwise (· ≤ ·)
  bounded : ∀ start ∈ r.attached, start ≤ r.published.length
  within : ∀ i ∈ r.put, i < r.published.length
  once : r.put.Nodup
  waiting : ∀ seq next, r.stage = some (.received seq next) → r.attached[seq]? = some next ∧
    AList.lookup seq r.tasks = none ∧ ∀ i, Owns r.attached seq i → i ∉ r.put
  working : ∀ seq task, AList.lookup seq r.tasks = some task → Working r seq task
  done : ∀ seq, AList.lookup seq r.tasks = none → (∀ next, r.stage ≠ some (.received seq next)) →
    ∀ i, Owns r.attached seq i → i ∈ r.put

theorem seamless_of_sound {r : KeyRelay α} (sound : Sound r) : Seamless r := by
  intro first i head since sent
  have once : r.put.count i ≤ 1 := List.nodup_iff_count_le_one.mp sound.once i
  have delivered : i ∈ r.put → r.put.count i = 1 :=
    fun member => Nat.le_antisymm once (List.count_pos_iff.mpr member)
  refine ⟨once, ?_⟩
  obtain ⟨seq, owns⟩ := exists_owner head since
  cases running : AList.lookup seq r.tasks with
  | some task =>
      have working := sound.working seq task running
      by_cases taken : i < task.next
      · by_cases held : task.inFlight = some i
        · exact Or.inl ⟨seq, _, _, .task running, Or.inl held⟩
        · exact Or.inr (delivered ((working.put i owns).mpr ⟨taken, held⟩))
      · exact Or.inl ⟨seq, _, _, .task running, Or.inr (Nat.not_lt.mp taken)⟩
  | none =>
      by_cases unspawned : ∃ next, r.stage = some (.received seq next)
      · obtain ⟨next, stage⟩ := unspawned
        obtain ⟨start, own, reached⟩ := owns.1
        obtain ⟨obtained, _⟩ := sound.waiting seq next stage
        obtain rfl := Option.some.inj (obtained.symm.trans own)
        exact Or.inl ⟨seq, next, none, .received stage, Or.inr reached⟩
      · exact Or.inr (delivered (sound.done seq running (not_exists.mp unspawned) i owns))

theorem sound_new : Sound (KeyRelay.new : KeyRelay α) where
  sorted := List.Pairwise.nil
  bounded start member := by cases member
  within i member := by cases member
  once := List.nodup_nil
  waiting seq next stage := by cases stage
  working seq task running := by cases running
  done seq _ _ i owns := by
    obtain ⟨⟨start, own, _⟩, _⟩ := owns
    cases own

section
variable {r r' : KeyRelay α}

theorem sound_dropTask (sound : Sound r) {seq : Nat} (running : (AList.lookup seq r.tasks).isSome = true)
    (finished : Finished r seq) : Sound (r.dropTask seq) where
  sorted := sound.sorted
  bounded := sound.bounded
  within := sound.within
  once := sound.once
  waiting other next stage := by
    obtain ⟨own, absent, unput⟩ := sound.waiting other next stage
    have apart : other ≠ seq := by
      rintro rfl
      rw [absent] at running
      cases running
    exact ⟨own, (AList.lookup_erase_ne apart).trans absent, unput⟩
  working other task there := by
    have working := sound.working other task (Table.lookup_of_lookup_erase there).2
    exact ⟨working.began, working.within, working.holding, working.put⟩
  done other absent spawned i owns := by
    by_cases same : other = seq
    · subst same
      obtain ⟨task, there⟩ := Option.isSome_iff_exists.mp running
      obtain ⟨later, next, complete⟩ := finished
      obtain ⟨passed, free⟩ := complete task there
      have before := owns.2 later next
      refine ((sound.working other task there).put i owns).mpr ⟨by omega, fun held => ?_⟩
      have beyond := free i held
      omega
    · exact sound.done other ((AList.lookup_erase_ne same).symm.trans absent) spawned i owns

theorem sound_setTask (sound : Sound r) {seq : Nat} {task : Forwarder} {put : List Nat}
    {outQueue : List α} (running : (AList.lookup seq r.tasks).isSome = true)
    (working : Working { r.setTask seq task with outQueue := outQueue, put := put } seq task)
    (within : ∀ i ∈ put, i < r.published.length) (once : put.Nodup)
    (kept : ∀ other i, other ≠ seq → Owns r.attached other i → (i ∈ put ↔ i ∈ r.put)) :
    Sound { r.setTask seq task with outQueue := outQueue, put := put } where
  sorted := sound.sorted
  bounded := sound.bounded
  within := within
  once := once
  waiting other next stage := by
    obtain ⟨own, absent, unput⟩ := sound.waiting other next stage
    have apart : other ≠ seq := by
      rintro rfl
      rw [absent] at running
      cases running
    refine ⟨own, (AList.lookup_insert_ne apart).trans absent, fun i owns member => ?_⟩
    exact unput i owns ((kept other i apart owns).mp member)
  working other task' there := by
    by_cases same : other = seq
    · subst same
      obtain rfl := Option.some.inj ((AList.lookup_insert r.tasks).symm.trans there)
      exact working
    · have older := sound.working other task' ((AList.lookup_insert_ne same).symm.trans there)
      exact ⟨older.began, older.within, older.holding, fun i owns =>
        (kept other i same owns).trans (older.put i owns)⟩
  done other absent spawned i owns := by
    have apart : other ≠ seq := by
      rintro rfl
      cases (AList.lookup_insert r.tasks).symm.trans absent
    have before := sound.done other ((AList.lookup_insert_ne apart).symm.trans absent) spawned i owns
    exact (kept other i apart owns).mpr before

theorem sound_published (sound : Sound r) (m : α) :
    Sound { r with published := r.published ++ [m] } where
  sorted := sound.sorted
  bounded start member := by
    have before := sound.bounded start member
    simp only [List.length_append, List.length_singleton]
    omega
  within i member := by
    have before := sound.within i member
    simp only [List.length_append, List.length_singleton]
    omega
  once := sound.once
  waiting := sound.waiting
  working seq task running := by
    have working := sound.working seq task running
    refine ⟨working.began, ?_, working.holding, working.put⟩
    have before := working.within
    simp only [List.length_append, List.length_singleton]
    omega
  done := sound.done

theorem sound_subscribed (sound : Sound r) (idle : r.stage = none) :
    Sound { r with
      attached := r.attached ++ [r.published.length]
      stage := some (.received r.attached.length r.published.length) } where
  sorted := by
    refine List.pairwise_append.mpr ⟨sound.sorted, List.pairwise_singleton _ _, ?_⟩
    intro start member last final
    rw [List.mem_singleton.mp final]
    exact sound.bounded start member
  bounded start member := by
    rcases List.mem_append.mp member with older | last
    · exact sound.bounded start older
    · exact Nat.le_of_eq (List.mem_singleton.mp last)
  within := sound.within
  once := sound.once
  waiting seq next stage := by
    obtain ⟨rfl, rfl⟩ := SubStage.received.inj (Option.some.inj stage)
    refine ⟨List.getElem?_concat_length, ?_, fun i owns member => ?_⟩
    · cases running : AList.lookup r.attached.length r.tasks with
      | none => rfl
      | some task =>
          obtain ⟨start, own, _⟩ := (sound.working _ task running).began
          rw [List.getElem?_eq_none (Nat.le_refl _)] at own
          cases own
    · obtain ⟨⟨start, own, since⟩, _⟩ := owns
      rw [List.getElem?_concat_length, Option.some.injEq] at own
      have before := sound.within i member
      omega
  working seq task running := by
    have working := sound.working seq task running
    obtain ⟨start, own, began⟩ := working.began
    have older : seq < r.attached.length := (List.getElem?_eq_some_iff.mp own).1
    refine ⟨⟨start, (List.getElem?_append_left older).trans own, began⟩, working.within,
      working.holding, fun i owns => working.put i ?_⟩
    exact (owns_concat owns).resolve_right fun last => absurd last.1 (Nat.ne_of_lt older)
  done seq absent spawned i owns := by
    refine sound.done seq absent (fun next stage => ?_) i ?_
    · rw [idle] at stage
      cases stage
    · refine (owns_concat owns).resolve_right fun last => spawned r.published.length ?_
      rw [last.1]

theorem sound_spawned (sound : Sound r) {seq next : Nat} (stage : r.stage = some (.received seq next)) :
    Sound { r.setTask seq ⟨next, none, false⟩ with stage := some (.spawned seq) } := by
  obtain ⟨own, absent, unput⟩ := sound.waiting seq next stage
  have member : next ∈ r.attached := List.mem_of_getElem? own
  refine ⟨sound.sorted, sound.bounded, sound.within, sound.once, fun other start later => ?_,
    fun other task there => ?_, fun other gone spawned i owns => ?_⟩
  · cases later
  · by_cases same : other = seq
    · subst same
      obtain rfl := Option.some.inj ((AList.lookup_insert r.tasks).symm.trans there)
      refine ⟨⟨next, own, Nat.le_refl _, fun i held => (by cases held)⟩, sound.bounded next member,
        fun i held => (by cases held), fun i owns => ?_⟩
      refine iff_of_false (unput i owns) fun taken => ?_
      obtain ⟨⟨start, obtained, since⟩, _⟩ := owns
      obtain rfl := Option.some.inj (own.symm.trans obtained)
      exact absurd taken.1 (Nat.not_lt.mpr since)
    · have older := sound.working other task ((AList.lookup_insert_ne same).symm.trans there)
      exact ⟨older.began, older.within, older.holding, older.put⟩
  · have apart : other ≠ seq := by
      rintro rfl
      cases (AList.lookup_insert r.tasks).symm.trans gone
    refine sound.done other ((AList.lookup_insert_ne apart).symm.trans gone) (fun start other' => ?_) i owns
    rw [stage] at other'
    exact apart (SubStage.received.inj (Option.some.inj other')).1.symm

theorem sound_stage (sound : Sound r) (spawned : ∀ seq next, r.stage ≠ some (.received seq next))
    {stage : Option SubStage} (spawned' : ∀ seq next, stage ≠ some (.received seq next))
    (relayTask : Option Nat) : Sound { r with stage := stage, relayTask := relayTask } where
  sorted := sound.sorted
  bounded := sound.bounded
  within := sound.within
  once := sound.once
  waiting seq next later := absurd later (spawned' seq next)
  working seq task running := by
    have working := sound.working seq task running
    exact ⟨working.began, working.within, working.holding, working.put⟩
  done seq absent _ := sound.done seq absent (spawned seq)

theorem sound_aborted (sound : Sound r) (old : Nat) : Sound { r with
    tasks := Table.adjust old (fun task => { task with aborted := true }) r.tasks } := by
  have kept : ∀ seq, (AList.lookup seq (Table.adjust old (fun task => { task with aborted := true })
      r.tasks)).map (fun task => (task.next, task.inFlight)) =
        (AList.lookup seq r.tasks).map fun task => (task.next, task.inFlight) := by
    intro seq
    by_cases same : seq = old
    · subst same
      rw [Table.lookup_adjust, Option.map_map]
      rfl
    · rw [Table.lookup_adjust_ne _ _ same]
  have absent : ∀ seq, AList.lookup seq (Table.adjust old (fun task => { task with aborted := true })
      r.tasks) = none ↔ AList.lookup seq r.tasks = none := by
    intro seq
    rw [← Option.map_eq_none_iff, kept seq, Option.map_eq_none_iff]
  refine ⟨sound.sorted, sound.bounded, sound.within, sound.once, fun seq next stage => ?_,
    fun seq task there => ?_, fun seq gone => sound.done seq ((absent seq).mp gone)⟩
  · obtain ⟨own, free, unput⟩ := sound.waiting seq next stage
    exact ⟨own, (absent seq).mpr free, unput⟩
  · have same := kept seq
    rw [there] at same
    obtain ⟨older, before, equal⟩ := Option.map_eq_some_iff.mp same.symm
    obtain ⟨next, inFlight⟩ := Prod.mk.inj equal
    have working := sound.working seq older before
    obtain ⟨start, own, began⟩ := working.began
    rw [next, inFlight] at began
    refine ⟨⟨start, own, began⟩, next ▸ working.within, ?_, fun i owns => ?_⟩
    · rw [← next, ← inFlight]
      exact working.holding
    · rw [← next, ← inFlight]
      exact working.put i owns

end

theorem sound_step {r r' : KeyRelay α} {e : SubEvent α} (sound : Sound r) (handsOver : HandsOver r e)
    (taken : step r e = some r') : Sound r' := by
  cases step_cases taken with
  | published => exact sound_published sound _
  | subscribed idle => exact sound_subscribed sound idle
  | spawned stage => exact sound_spawned sound stage
  | inserted stage =>
      refine sound_stage sound (fun seq next other => ?_) (fun seq next other => ?_) _
      · rw [stage] at other
        cases other
      · obtain ⟨old, _, same⟩ := Option.map_eq_some_iff.mp other
        cases same
  | aborted stage =>
      rename_i old
      have marked := sound_aborted sound old
      refine sound_stage marked (fun seq next other => ?_) (fun seq next other => ?_) r.relayTask
      · rw [show r.stage = _ from stage] at other
        cases other
      · cases other
  | lagged running behind =>
      exact sound_dropTask sound (Option.isSome_of_eq_some running) (handsOver _ running behind)
  | taken running idle waiting =>
      rename_i seq task
      have working := sound.working seq task running
      refine sound_setTask sound (Option.isSome_of_eq_some running) ?_ sound.within sound.once
        fun _ _ _ _ => Iff.rfl
      obtain ⟨start, own, reached, _⟩ := working.began
      refine ⟨⟨start, own, Nat.le_succ_of_le reached, fun i held => ?_⟩, waiting, fun i held => ?_,
        fun i owns => ?_⟩
      · cases held
        exact reached
      · cases held
        rfl
      · refine (working.put i owns).trans ?_
        rw [idle]
        simp only [ne_eq, reduceCtorEq, not_false_eq_true, and_true, Option.some.injEq]
        omega
  | sent running holding found =>
      rename_i seq task i m
      have working := sound.working seq task running
      obtain ⟨start, own, reached, began⟩ := working.began
      have next := working.holding i holding
      have owns : Owns r.attached seq i :=
        ⟨⟨start, own, began i holding⟩, fun later found => handsOver task i later running holding found⟩
      have unput : i ∉ r.put := fun member => ((working.put i owns).mp member).2 holding
      refine sound_setTask sound (Option.isSome_of_eq_some running) ?_ (fun j member => ?_) ?_ ?_
      · refine ⟨⟨start, own, reached, fun j held => by cases held⟩, working.within,
          fun j held => (by cases held), fun j owned => ?_⟩
        have before := working.put j owned
        rw [holding] at before
        simp only [List.mem_append, List.mem_singleton, before, ne_eq, Option.some.injEq, reduceCtorEq,
          not_false_eq_true, and_true]
        omega
      · rcases List.mem_append.mp member with older | last
        · exact sound.within j older
        · have room := working.within
          rw [List.mem_singleton.mp last]
          omega
      · refine List.nodup_append.mpr ⟨sound.once, List.nodup_singleton i, ?_⟩
        rintro j member k last rfl
        exact unput (List.mem_singleton.mp last ▸ member)
      · intro other j apart owned
        have differs : j ≠ i := by
          rintro rfl
          exact apart (owner_unique sound.sorted owned owns)
        simp [differs]
  | dropped running _ => exact sound_dropTask sound (Option.isSome_of_eq_some running) handsOver
  | written => exact ⟨sound.sorted, sound.bounded, sound.within, sound.once, sound.waiting,
      fun seq task running => ⟨(sound.working seq task running).began,
        (sound.working seq task running).within, (sound.working seq task running).holding,
        (sound.working seq task running).put⟩, sound.done⟩

end RealtimePlatform.Proof.Handover
