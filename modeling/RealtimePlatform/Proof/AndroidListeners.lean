import RealtimePlatform.Sdk.AndroidSubscriptions

namespace RealtimePlatform.Proof.AndroidListeners
open Library Sdk.Kotlin Sdk.Kotlin.Registry
open Backend (Opcode)

variable {η : Type*} [DecidableEq η]

def owes : Subscribing → Bool
  | .checked isNewChannel | .missed isNewChannel | .holding isNewChannel _ | .added isNewChannel => isNewChannel
  | .called | .returned => false

def entered : Subscribing → Bool
  | .added _ | .returned => true
  | .called | .checked _ | .missed _ | .holding _ _ => false

def Listens (channelId : String) (listener : η) (r : Registry η) : Prop :=
  ∃ set listeners, r.stored channelId = some set ∧ r.sets[set]? = some listeners ∧ listener ∈ listeners

def HasListener (channelId : String) (r : Registry η) : Prop := ∃ listener, Listens channelId listener r

def lastWord (channelId : String) (frames : List (Opcode × String)) : Option Opcode :=
  (frames.filter fun f => f.2 = channelId).getLast?.map (·.1)

def Quiet (channelId : String) (r : Registry η) : Prop :=
  (∀ (i : Nat) (call : Subscription η), r.opened[i]? = some call → call.channelId = channelId → call.stage = .returned) ∧
    ∀ (k : Nat) (closure : Closure η), r.closures[k]? = some closure → closure.channelId = channelId →
      closure.stage = .done

def Unclosed (i : Nat) (r : Registry η) : Prop :=
  ∀ (k : Nat) (closure : Closure η), r.closures[k]? = some closure → closure.subscription ≠ i

/-- The listener of every call that has returned, and has not been closed, is in the set stored for its channel; and
with a socket, where no call is under way on a channel, its last frame is SUB exactly if it has a listener. -/
structure Kept (r : Registry η) : Prop where
  listening : ∀ (i : Nat) (call : Subscription η), r.opened[i]? = some call → call.stage = .returned → Unclosed i r →
    Listens call.channelId call.listener r
  wire : r.webSocket = true → ∀ channelId, Quiet channelId r →
    (lastWord channelId r.frames = some .subscribe ↔ HasListener channelId r)

def Stands (i : Nat) (call : Subscription η) (r : Registry η) : Prop :=
  r.opened[i]? = some call ∧ entered call.stage = true ∧ Unclosed i r

def Owed (channelId : String) (r : Registry η) : Prop :=
  ∃ (i : Nat) (call : Subscription η), r.opened[i]? = some call ∧ call.channelId = channelId ∧ owes call.stage = true

/-- A closing takes a listener out of the stored set only if no other call stands with it on the channel; it takes the
channel out of the map only if none stands on it, holds a set to add to, or (with a socket) has found the channel
there and not yet looked up its set; and it sends UNSUB for a channel that is stored again only if SUB is yet to be
sent. -/
def Undisturbed (r : Registry η) : RegistryEvent η → Prop
  | .proceed k => ∀ closure : Closure η, r.closures[k]? = some closure →
    match closure.stage with
    | .found current => r.stored closure.channelId = some current → ∀ (i : Nat) (call : Subscription η),
        Stands i call r → call.channelId = closure.channelId → call.listener ≠ closure.listener
    | .emptied => ∀ (i : Nat) (call : Subscription η), r.opened[i]? = some call → call.channelId = closure.channelId →
        ¬Stands i call r ∧ (∀ isNewChannel set, call.stage ≠ .holding isNewChannel set) ∧
          (r.webSocket = true → call.stage ≠ .checked false)
    | .dropped => r.webSocket = true → (r.stored closure.channelId).isSome → Owed closure.channelId r
    | _ => True
  | _ => True

structure Sound (r : Registry η) : Prop where
  held : ∀ (i : Nat) (call : Subscription η) (b : Bool) (set : Nat), r.opened[i]? = some call →
    call.stage = .holding b set → r.stored call.channelId = some set
  stands : ∀ (i : Nat) (call : Subscription η), Stands i call r → Listens call.channelId call.listener r
  checked : r.webSocket = true → ∀ (i : Nat) (call : Subscription η), r.opened[i]? = some call →
    call.stage = .checked false → (r.stored call.channelId).isSome
  missed : r.webSocket = true → ∀ (i : Nat) (call : Subscription η), r.opened[i]? = some call →
    call.stage ≠ .missed false
  closed : ∀ (k : Nat) (closure : Closure η), r.closures[k]? = some closure →
    ∃ call : Subscription η, r.opened[closure.subscription]? = some call ∧ call.stage = .returned
  made : ∀ channelId set, r.stored channelId = some set → set < r.sets.length
  found : ∀ (k : Nat) (closure : Closure η) (set : Nat), r.closures[k]? = some closure → closure.stage = .found set →
    set < r.sets.length ∧ ∀ channelId, r.stored channelId = some set → channelId = closure.channelId
  apart : ∀ channelId other set, r.stored channelId = some set → r.stored other = some set → channelId = other
  empty : ∀ channelId set, r.stored channelId = some set → r.sets[set]? = some [] →
    (∃ (i : Nat) (call : Subscription η), r.opened[i]? = some call ∧ call.channelId = channelId ∧
      ∃ b, call.stage = .holding b set) ∨
    ∃ (k : Nat) (closure : Closure η), r.closures[k]? = some closure ∧ closure.channelId = channelId ∧
      (closure.stage = .removed set ∨ closure.stage = .emptied)
  said : r.webSocket = true → ∀ channelId, (r.stored channelId).isSome →
    lastWord channelId r.frames = some .subscribe ∨ Owed channelId r
  unsaid : r.webSocket = true → ∀ channelId, r.stored channelId = none →
    lastWord channelId r.frames ≠ some .subscribe ∨
      ∃ (k : Nat) (closure : Closure η), r.closures[k]? = some closure ∧ closure.channelId = channelId ∧
        closure.stage = .dropped

section
variable {r r' : Registry η}

omit [DecidableEq η] in
theorem kept_of_sound (sound : Sound r) : Kept r := by
  refine ⟨fun i call found returned unclosed => ?_, fun present channelId quiet => ?_⟩
  · exact sound.stands i call ⟨found, by rw [returned]; rfl, unclosed⟩
  · have undisturbed : ∀ (k : Nat) (closure : Closure η) (stage : Closing), r.closures[k]? = some closure →
        closure.channelId = channelId → stage ≠ .done → closure.stage ≠ stage := by
      intro k closure stage there own under same
      exact under (same.symm.trans (quiet.2 k closure there own))
    cases stored : r.stored channelId with
    | none =>
        refine iff_of_false ?_ fun ⟨listener, set, listeners, now, _⟩ => absurd (stored.symm.trans now) (by simp)
        refine (sound.unsaid present channelId stored).resolve_right ?_
        rintro ⟨k, closure, there, own, dropped⟩
        exact undisturbed k closure .dropped there own (by simp) dropped
    | some set =>
        constructor
        · intro _
          obtain ⟨listeners, there⟩ : ∃ listeners, r.sets[set]? = some listeners :=
            ⟨_, List.getElem?_eq_getElem (sound.made channelId set stored)⟩
          cases listeners with
          | nil =>
              exfalso
              rcases sound.empty channelId set stored there with ⟨i, call, there, own, b, holding⟩ | ⟨k, closure, there, own, stage⟩
              · exact absurd (holding.symm.trans (quiet.1 i call there own)) (by simp)
              · rcases stage with removed | emptied
                · exact undisturbed k closure (.removed set) there own (by simp) removed
                · exact undisturbed k closure .emptied there own (by simp) emptied
          | cons listener rest => exact ⟨listener, set, _, stored, there, List.mem_cons_self⟩
        · intro _
          refine (sound.said present channelId (by rw [stored]; rfl)).resolve_right ?_
          rintro ⟨i, call, there, own, owing⟩
          rw [quiet.1 i call there own] at owing
          cases owing

omit [DecidableEq η] in
theorem stands_move {i j : Nat} {call call' : Subscription η} {stage : Subscribing} (r' : Registry η)
    (found : r.opened[i]? = some call) (opened : r'.opened = r.opened.modify i fun call => { call with stage }) (closures : r'.closures = r.closures)
    (stands : Stands j call' r') : Stands j call' r ∨ j = i ∧ call' = { call with stage } ∧ entered stage = true := by
  obtain ⟨there, enters, unclosed⟩ := stands
  rw [opened] at there
  rw [Unclosed, closures] at unclosed
  obtain ⟨before, was, ⟨rfl, rfl⟩ | ⟨_, rfl⟩⟩ := modify_cases there
  · obtain rfl := Option.some.inj (found.symm.trans was)
    exact Or.inr ⟨rfl, rfl, enters⟩
  · exact Or.inl ⟨was, enters, unclosed⟩

omit [DecidableEq η] in
theorem opened_cases {i j : Nat} {call call' : Subscription η} {stage : Subscribing} (found : r.opened[i]? = some call)
    (opened : r'.opened = r.opened.modify i fun call => { call with stage }) (there : r'.opened[j]? = some call') :
    r.opened[j]? = some call' ∨ call' = { call with stage } := by
  rw [opened] at there
  obtain ⟨before, was, ⟨rfl, rfl⟩ | ⟨_, rfl⟩⟩ := modify_cases there
  · obtain rfl := Option.some.inj (found.symm.trans was)
    exact Or.inr rfl
  · exact Or.inl was

omit [DecidableEq η] in
theorem closed_move {i : Nat} {call : Subscription η} {stage : Subscribing} (sound : Sound r)
    (found : r.opened[i]? = some call) (under : call.stage ≠ .returned)
    (opened : r'.opened = r.opened.modify i fun call => { call with stage }) {k : Nat} {closure : Closure η}
    (there : r.closures[k]? = some closure) :
    ∃ call : Subscription η, r'.opened[closure.subscription]? = some call ∧ call.stage = .returned := by
  obtain ⟨other, was, returned⟩ := sound.closed k closure there
  refine ⟨other, ?_, returned⟩
  have apart : closure.subscription ≠ i := by
    rintro rfl
    obtain rfl := Option.some.inj (found.symm.trans was)
    exact under returned
  rw [opened]
  exact (List.getElem?_modify_ne _ _ (Ne.symm apart)).trans was

omit [DecidableEq η] in
theorem exists_move {P : Subscription η → Prop} {i : Nat} {call : Subscription η} {stage : Subscribing}
    (found : r.opened[i]? = some call) (opened : r'.opened = r.opened.modify i fun call => { call with stage })
    (keeps : P call → P { call with stage })
    (before : ∃ (j : Nat) (other : Subscription η), r.opened[j]? = some other ∧ P other) :
    ∃ (j : Nat) (other : Subscription η), r'.opened[j]? = some other ∧ P other := by
  rw [opened]
  refine exists_modify (fun other was holds => ?_) before
  obtain rfl := Option.some.inj (found.symm.trans was)
  exact keeps holds

omit [DecidableEq η] in
theorem sound_reads {i : Nat} {call : Subscription η} {stage : Subscribing} (sound : Sound r)
    (found : r.opened[i]? = some call) (early : entered call.stage = false) (free : ∀ b set, call.stage ≠ .holding b set)
    (owing : owes call.stage = true → owes stage = true) (reads : entered stage = false)
    (holds : ∀ b set, stage = .holding b set → r.stored call.channelId = some set)
    (checks : r.webSocket = true → stage = .checked false → (r.stored call.channelId).isSome)
    (misses : r.webSocket = true → stage ≠ .missed false) : Sound (r.move i stage) := by
  have opened : (r.move i stage).opened = r.opened.modify i fun call => { call with stage } := rfl
  have under : call.stage ≠ .returned := by
    intro returned
    rw [returned] at early
    cases early
  refine ⟨fun j call' b set there holding => ?_, fun j call' stands => ?_, fun present j call' there checked => ?_,
    fun present j call' there => ?_, fun k closure there => closed_move sound found under opened there, sound.made,
    sound.found, sound.apart, fun channelId set stored none => ?_, fun present channelId stored => ?_, sound.unsaid⟩
  · rcases opened_cases found opened there with old | rfl
    · exact sound.held j call' b set old holding
    · exact holds b set holding
  · rcases stands_move (r.move i stage) found rfl rfl stands with old | ⟨_, _, enters⟩
    · exact sound.stands j call' old
    · rw [reads] at enters
      cases enters
  · rcases opened_cases found opened there with old | rfl
    · exact sound.checked present j call' old checked
    · exact checks present checked
  · rcases opened_cases found opened there with old | rfl
    · exact sound.missed present j call' old
    · exact misses present
  · refine (sound.empty channelId set stored none).imp_left (exists_move found opened ?_)
    rintro ⟨_, b, holding⟩
    exact absurd holding (free b set)
  · exact (sound.said present channelId stored).imp_right
      (exists_move found opened fun ⟨own, before⟩ => ⟨own, owing before⟩)

omit [DecidableEq η] in
theorem listens_of_sets {channelId : String} {listener : η} (listens : Listens channelId listener r)
    (stored : r'.stored channelId = r.stored channelId)
    (sets : ∀ (set : Nat) listeners, r.stored channelId = some set → r.sets[set]? = some listeners → listener ∈ listeners →
      ∃ listeners', r'.sets[set]? = some listeners' ∧ listener ∈ listeners') : Listens channelId listener r' := by
  obtain ⟨set, listeners, now, there, member⟩ := listens
  obtain ⟨listeners', there', member'⟩ := sets set listeners now there member
  exact ⟨set, listeners', stored.trans now, there', member'⟩

omit [DecidableEq η] in
theorem sound_puts {i : Nat} {call : Subscription η} {b : Bool} (sound : Sound r) (found : r.opened[i]? = some call)
    (stage : call.stage = .missed b) (absent : r.stored call.channelId = none) :
    Sound ({ r with
      subscriptions := AList.insert call.channelId r.sets.length r.subscriptions
      sets := r.sets ++ [[]] }.move i (.holding b r.sets.length)) := by
  obtain ⟨r', same⟩ : ∃ r', r' = { r with
      subscriptions := AList.insert call.channelId r.sets.length r.subscriptions
      sets := r.sets ++ [[]] }.move i (.holding b r.sets.length) := ⟨_, rfl⟩
  rw [← same]
  have opened : r'.opened = r.opened.modify i fun call => { call with stage := .holding b r.sets.length } := by
    rw [same]
    rfl
  have rest : r'.webSocket = r.webSocket ∧ r'.closures = r.closures ∧ r'.frames = r.frames ∧ r'.sets = r.sets ++ [[]] := by
    rw [same]
    exact ⟨rfl, rfl, rfl, rfl⟩
  obtain ⟨webSocket, closures, frames, sets⟩ := rest
  have own : r'.stored call.channelId = some r.sets.length := by
    rw [same]
    exact AList.lookup_insert _
  have others : ∀ channelId, channelId ≠ call.channelId → r'.stored channelId = r.stored channelId := by
    intro channelId other
    rw [same]
    exact AList.lookup_insert_ne other
  have known : ∀ channelId set, r'.stored channelId = some set →
      channelId = call.channelId ∧ set = r.sets.length ∨ channelId ≠ call.channelId ∧ r.stored channelId = some set := by
    intro channelId set stored
    by_cases mine : channelId = call.channelId
    · rw [mine, own, Option.some.injEq] at stored
      exact Or.inl ⟨mine, stored.symm⟩
    · exact Or.inr ⟨mine, others channelId mine ▸ stored⟩
  have kept : ∀ channelId, (r.stored channelId).isSome → r'.stored channelId = r.stored channelId := by
    intro channelId stored
    refine others channelId ?_
    rintro rfl
    rw [absent] at stored
    cases stored
  have under : call.stage ≠ .returned := by
    rw [stage]
    simp
  refine ⟨fun j call' b' set there holding => ?_, fun j call' stands => ?_, fun present j call' there checked => ?_,
    fun present j call' there missed => ?_, fun k closure there => ?_, fun channelId set stored => ?_,
    fun k closure set there stage => ?_, fun channelId other set stored stored' => ?_,
    fun channelId set stored none => ?_, fun present channelId stored => ?_, fun present channelId stored => ?_⟩
  · rcases opened_cases found opened there with old | rfl
    · have before := sound.held j call' b' set old holding
      rw [kept _ (by rw [before]; rfl), before]
    · rw [own]
      injection holding with _ same
      rw [same]
  · rcases stands_move r' found opened closures stands with old | ⟨_, _, enters⟩
    · have listens := sound.stands j call' old
      obtain ⟨set, listeners, stored, there, _⟩ := listens
      refine listens_of_sets (sound.stands j call' old) (kept _ (by rw [stored]; rfl)) fun set listeners _ there member => ?_
      exact ⟨listeners, by rw [sets]; exact getElem?_append_of_some there _, member⟩
    · cases enters
  · rcases opened_cases found opened there with old | rfl
    · have before := sound.checked (webSocket ▸ present) j call' old checked
      rw [kept _ before]
      exact before
    · cases checked
  · rcases opened_cases found opened there with old | rfl
    · exact sound.missed (webSocket ▸ present) j call' old missed
    · cases missed
  · rw [closures] at there
    exact closed_move sound found under opened there
  · rw [sets, List.length_append, List.length_singleton]
    rcases known channelId set stored with ⟨_, rfl⟩ | ⟨_, before⟩
    · exact Nat.lt_succ_self _
    · exact Nat.lt_succ_of_lt (sound.made channelId set before)
  · rw [closures] at there
    obtain ⟨bound, only⟩ := sound.found k closure set there stage
    rw [sets, List.length_append]
    refine ⟨Nat.lt_add_right _ bound, fun channelId stored => ?_⟩
    rcases known channelId set stored with ⟨_, rfl⟩ | ⟨_, before⟩
    · exact absurd bound (Nat.lt_irrefl _)
    · exact only channelId before
  · rcases known channelId set stored with ⟨rfl, rfl⟩ | ⟨_, before⟩
    · rcases known other _ stored' with ⟨rfl, _⟩ | ⟨_, before'⟩
      · rfl
      · exact absurd (sound.made other _ before') (Nat.lt_irrefl _)
    · rcases known other set stored' with ⟨rfl, rfl⟩ | ⟨_, before'⟩
      · exact absurd (sound.made channelId _ before) (Nat.lt_irrefl _)
      · exact sound.apart channelId other set before before'
  · rcases known channelId set stored with ⟨rfl, rfl⟩ | ⟨_, before⟩
    · refine Or.inl ⟨i, { call with stage := .holding b r.sets.length }, ?_, rfl, b, rfl⟩
      rw [opened, List.getElem?_modify_eq, found]
      rfl
    · rw [sets, List.getElem?_append_left (sound.made channelId set before)] at none
      rw [closures]
      refine (sound.empty channelId set before none).imp_left (exists_move found opened ?_)
      rintro ⟨_, b', holding⟩
      exact absurd (stage.symm.trans holding) (by simp)
  · rw [frames]
    by_cases mine : channelId = call.channelId
    · refine Or.inr ⟨i, { call with stage := .holding b r.sets.length }, ?_, mine.symm, ?_⟩
      · rw [opened, List.getElem?_modify_eq, found]
        rfl
      · cases b with
        | true => rfl
        | false => exact absurd stage (sound.missed (webSocket ▸ present) i call found)
    · rw [others channelId mine] at stored
      refine (sound.said (webSocket ▸ present) channelId stored).imp_right (exists_move found opened ?_)
      rintro ⟨other, _⟩
      exact absurd other.symm mine
  · rw [frames, closures]
    refine sound.unsaid (webSocket ▸ present) channelId ?_
    rw [← others channelId]
    · exact stored
    · rintro rfl
      exact absurd (own.symm.trans stored) (by simp)

theorem mem_withListener {listener other : η} {listeners : List η} :
    other ∈ withListener listener listeners ↔ other ∈ listeners ∨ other = listener := by
  unfold withListener
  split
  · rename_i present
    exact ⟨Or.inl, Or.rec id fun same => same ▸ present⟩
  · rw [List.mem_append, List.mem_singleton]

theorem sound_adds {i : Nat} {call : Subscription η} {b : Bool} {set : Nat} (sound : Sound r)
    (found : r.opened[i]? = some call) (stage : call.stage = .holding b set) :
    Sound ({ r with sets := r.sets.modify set (withListener call.listener) }.move i (.added b)) := by
  obtain ⟨r', same⟩ : ∃ r', r' =
      { r with sets := r.sets.modify set (withListener call.listener) }.move i (.added b) := ⟨_, rfl⟩
  rw [← same]
  have opened : r'.opened = r.opened.modify i fun call => { call with stage := .added b } := by
    rw [same]
    rfl
  have sets : r'.sets = r.sets.modify set (withListener call.listener) := by
    rw [same]
    rfl
  have rest : r'.webSocket = r.webSocket ∧ r'.closures = r.closures ∧ r'.frames = r.frames ∧
      ∀ channelId, r'.stored channelId = r.stored channelId := by
    rw [same]
    exact ⟨rfl, rfl, rfl, fun _ => rfl⟩
  obtain ⟨webSocket, closures, frames, stored⟩ := rest
  have under : call.stage ≠ .returned := by
    rw [stage]
    simp
  have held := sound.held i call b set found stage
  obtain ⟨listeners, there⟩ : ∃ listeners, r.sets[set]? = some listeners :=
    ⟨_, List.getElem?_eq_getElem (sound.made call.channelId set held)⟩
  have grown : r'.sets[set]? = some (withListener call.listener listeners) := by
    rw [sets, List.getElem?_modify_eq, there]
    rfl
  refine ⟨fun j call' b' set' there holding => ?_, fun j call' stands => ?_, fun present j call' there checked => ?_,
    fun present j call' there missed => ?_, fun k closure there => ?_, fun channelId set' now => ?_,
    fun k closure set' there stage => ?_, fun channelId other set' now now' => ?_,
    fun channelId set' now none => ?_, fun present channelId now => ?_, fun present channelId now => ?_⟩
  · rw [stored]
    rcases opened_cases found opened there with old | rfl
    · exact sound.held j call' b' set' old holding
    · cases holding
  · rcases stands_move r' found opened closures stands with old | ⟨_, rfl, _⟩
    · refine listens_of_sets (sound.stands j call' old) (stored _) fun set' listeners' _ there' member => ?_
      by_cases own : set' = set
      · subst own
        obtain rfl := Option.some.inj (there.symm.trans there')
        exact ⟨_, grown, mem_withListener.mpr (Or.inl member)⟩
      · exact ⟨listeners', by rw [sets, List.getElem?_modify_ne _ _ (Ne.symm own), there'], member⟩
    · exact ⟨set, _, (stored _).trans held, grown, mem_withListener.mpr (Or.inr rfl)⟩
  · rw [stored]
    rcases opened_cases found opened there with old | rfl
    · exact sound.checked (webSocket ▸ present) j call' old checked
    · cases checked
  · rcases opened_cases found opened there with old | rfl
    · exact sound.missed (webSocket ▸ present) j call' old missed
    · cases missed
  · rw [closures] at there
    exact closed_move sound found under opened there
  · rw [stored] at now
    rw [sets, List.length_modify]
    exact sound.made channelId set' now
  · rw [closures] at there
    rw [sets, List.length_modify]
    simp only [stored]
    exact sound.found k closure set' there stage
  · rw [stored] at now now'
    exact sound.apart channelId other set' now now'
  · rw [stored] at now
    by_cases own : set' = set
    · rw [own, grown, Option.some.injEq] at none
      have inside : call.listener ∈ withListener call.listener listeners := mem_withListener.mpr (Or.inr rfl)
      rw [none] at inside
      cases inside
    · rw [sets, List.getElem?_modify_ne _ _ (Ne.symm own)] at none
      rw [closures]
      refine (sound.empty channelId set' now none).imp_left (exists_move found opened ?_)
      rintro ⟨_, b', holding⟩
      rw [stage] at holding
      injection holding with _ other
      exact absurd other.symm own
  · rw [stored] at now
    rw [frames]
    refine (sound.said (webSocket ▸ present) channelId now).imp_right (exists_move found opened ?_)
    rintro ⟨own, owing⟩
    rw [stage] at owing
    exact ⟨own, owing⟩
  · rw [stored] at now
    rw [frames, closures]
    exact sound.unsaid (webSocket ▸ present) channelId now

omit [DecidableEq η] in
theorem lastWord_concat (channelId other : String) (opcode : Opcode) (frames : List (Opcode × String)) :
    lastWord channelId (frames ++ [(opcode, other)]) = if other = channelId then some opcode else lastWord channelId frames := by
  rw [lastWord, List.filter_append]
  split
  · rename_i own
    rw [List.filter_cons_of_pos (by simpa using own), List.filter_nil, List.getLast?_concat]
    rfl
  · rename_i apart
    rw [List.filter_cons_of_neg (by simpa using apart), List.filter_nil, List.append_nil]
    rfl

omit [DecidableEq η] in
theorem send_fields (opcode : Opcode) (channelId : String) (r : Registry η) :
    (r.send opcode channelId).webSocket = r.webSocket ∧ (r.send opcode channelId).opened = r.opened ∧
      (r.send opcode channelId).closures = r.closures ∧ (r.send opcode channelId).sets = r.sets ∧
      (r.send opcode channelId).subscriptions = r.subscriptions ∧
      (r.webSocket = true → (r.send opcode channelId).frames = r.frames ++ [(opcode, channelId)]) := by
  unfold send
  split
  · exact ⟨rfl, rfl, rfl, rfl, rfl, fun _ => rfl⟩
  · exact ⟨rfl, rfl, rfl, rfl, rfl, fun present => absurd present ‹_›⟩

omit [DecidableEq η] in
theorem sound_returns {i : Nat} {call : Subscription η} {b : Bool} (sound : Sound r)
    (found : r.opened[i]? = some call) (stage : call.stage = .added b) :
    Sound ((if b then r.send .subscribe call.channelId else r).move i .returned) := by
  obtain ⟨r', same⟩ : ∃ r', r' = (if b then r.send .subscribe call.channelId else r).move i .returned := ⟨_, rfl⟩
  rw [← same]
  have rest : r'.webSocket = r.webSocket ∧ r'.closures = r.closures ∧ r'.sets = r.sets ∧
      r'.subscriptions = r.subscriptions ∧
      r'.opened = r.opened.modify i (fun call => { call with stage := .returned }) ∧
      (r.webSocket = true → r'.frames = if b then r.frames ++ [(.subscribe, call.channelId)] else r.frames) := by
    obtain ⟨webSocket, opened, closures, sets, subscriptions, frames⟩ := send_fields .subscribe call.channelId r
    rw [same]
    cases b with
    | true => exact ⟨webSocket, closures, sets, subscriptions, congrArg (List.modify · i _) opened, frames⟩
    | false => exact ⟨rfl, rfl, rfl, rfl, rfl, fun _ => rfl⟩
  obtain ⟨webSocket, closures, sets, subscriptions, opened, frames⟩ := rest
  have stored : ∀ channelId, r'.stored channelId = r.stored channelId := by
    intro channelId
    rw [Registry.stored, subscriptions]
    rfl
  have under : call.stage ≠ .returned := by
    rw [stage]
    simp
  have there : (r.stored call.channelId).isSome := by
    have unclosed : Unclosed i r := by
      rintro k closure there rfl
      obtain ⟨other, was, returned⟩ := sound.closed k closure there
      obtain rfl := Option.some.inj (found.symm.trans was)
      exact under returned
    obtain ⟨set, _, now, _⟩ := sound.stands i call ⟨found, by rw [stage]; rfl, unclosed⟩
    rw [now]
    rfl
  refine ⟨fun j call' b' set' there holding => ?_, fun j call' stands => ?_, fun present j call' there checked => ?_,
    fun present j call' there missed => ?_, fun k closure there => ?_, fun channelId set' now => ?_,
    fun k closure set' there stage => ?_, fun channelId other set' now now' => ?_,
    fun channelId set' now none => ?_, fun present channelId now => ?_, fun present channelId now => ?_⟩
  · rw [stored]
    rcases opened_cases found opened there with old | rfl
    · exact sound.held j call' b' set' old holding
    · cases holding
  · have before : Listens call'.channelId call'.listener r := by
      rcases stands_move r' found opened closures stands with old | ⟨rfl, rfl, _⟩
      · exact sound.stands j call' old
      · refine sound.stands j call ⟨found, by rw [stage]; rfl, ?_⟩
        have unclosed := stands.2.2
        rwa [Unclosed, closures] at unclosed
    refine listens_of_sets before (stored _) fun set listeners _ there member => ⟨listeners, ?_, member⟩
    rwa [sets]
  · rw [stored]
    rcases opened_cases found opened there with old | rfl
    · exact sound.checked (webSocket ▸ present) j call' old checked
    · cases checked
  · rcases opened_cases found opened there with old | rfl
    · exact sound.missed (webSocket ▸ present) j call' old missed
    · cases missed
  · rw [closures] at there
    exact closed_move sound found under opened there
  · rw [stored] at now
    rw [sets]
    exact sound.made channelId set' now
  · rw [closures] at there
    rw [sets]
    simp only [stored]
    exact sound.found k closure set' there stage
  · rw [stored] at now now'
    exact sound.apart channelId other set' now now'
  · rw [stored] at now
    rw [sets] at none
    rw [closures]
    refine (sound.empty channelId set' now none).imp_left (exists_move found opened ?_)
    rintro ⟨_, b', holding⟩
    exact absurd (stage.symm.trans holding) (by simp)
  · rw [stored] at now
    rw [frames (webSocket ▸ present)]
    cases b with
    | true =>
        rw [if_pos rfl, lastWord_concat]
        split
        · exact Or.inl rfl
        · rename_i other
          refine (sound.said (webSocket ▸ present) channelId now).imp_right (exists_move found opened ?_)
          rintro ⟨own, _⟩
          exact absurd own other
    | false =>
        rw [if_neg Bool.false_ne_true]
        refine (sound.said (webSocket ▸ present) channelId now).imp_right (exists_move found opened ?_)
        rintro ⟨_, owing⟩
        rw [stage] at owing
        cases owing
  · rw [stored] at now
    have other : call.channelId ≠ channelId := by
      rintro rfl
      rw [now] at there
      cases there
    rw [frames (webSocket ▸ present), closures]
    have same : lastWord channelId (if b then r.frames ++ [(.subscribe, call.channelId)] else r.frames) =
        lastWord channelId r.frames := by
      split
      · rw [lastWord_concat, if_neg other]
      · rfl
    rw [same]
    exact sound.unsaid (webSocket ▸ present) channelId now

omit [DecidableEq η] in
theorem sound_subscribe (channelId : String) (listener : η) (sound : Sound r) :
    Sound { r with opened := r.opened ++ [⟨channelId, listener, .called⟩] } := by
  have fresh : ∀ (j : Nat) (call : Subscription η), (r.opened ++ [⟨channelId, listener, .called⟩])[j]? = some call →
      call.stage ≠ .called → r.opened[j]? = some call := by
    intro j call there begun
    rcases append_cases there with old | ⟨_, rfl⟩
    · exact old
    · exact absurd rfl begun
  refine ⟨fun j call b set there holding => ?_, fun j call stands => ?_, fun present j call there checked => ?_,
    fun present j call there missed => ?_, fun k closure there => ?_, sound.made, sound.found, sound.apart,
    fun other set stored none => ?_, fun present other stored => ?_, sound.unsaid⟩
  · exact sound.held j call b set (fresh j call there (by rw [holding]; simp)) holding
  · obtain ⟨there, enters, unclosed⟩ := stands
    refine sound.stands j call ⟨fresh j call there ?_, enters, unclosed⟩
    intro called
    rw [called] at enters
    cases enters
  · exact sound.checked present j call (fresh j call there (by rw [checked]; simp)) checked
  · exact sound.missed present j call (fresh j call there (by rw [missed]; simp)) missed
  · obtain ⟨call, was, returned⟩ := sound.closed k closure there
    exact ⟨call, getElem?_append_of_some was _, returned⟩
  · exact (sound.empty other set stored none).imp_left (exists_append _)
  · exact (sound.said present other stored).imp_right (exists_append _)

omit [DecidableEq η] in
theorem sound_close {i : Nat} {call : Subscription η} (sound : Sound r) (found : r.opened[i]? = some call)
    (returned : call.stage = .returned) : Sound { r with
      closures := r.closures ++ [{ subscription := i, channelId := call.channelId, listener := call.listener }] } := by
  refine ⟨sound.held, fun j call' stands => ?_, sound.checked, sound.missed, fun k closure there => ?_, sound.made,
    fun k closure set there stage => ?_, sound.apart, fun other set stored none => ?_, sound.said,
    fun present other stored => ?_⟩
  · obtain ⟨there, enters, unclosed⟩ := stands
    exact sound.stands j call' ⟨there, enters, fun k closure before => unclosed k closure (getElem?_append_of_some before _)⟩
  · rcases append_cases there with old | ⟨_, rfl⟩
    · exact sound.closed k closure old
    · exact ⟨call, found, returned⟩
  · rcases append_cases there with old | ⟨_, rfl⟩
    · exact sound.found k closure set old stage
    · cases stage
  · exact (sound.empty other set stored none).imp_right (exists_append _)
  · exact (sound.unsaid present other stored).imp_right (exists_append _)

omit [DecidableEq η] in
theorem closures_cases {j k : Nat} {closure closure' : Closure η} {stage : Closing} (found : r.closures[k]? = some closure)
    (closures : r'.closures = r.closures.modify k fun closure => { closure with stage })
    (there : r'.closures[j]? = some closure') : r.closures[j]? = some closure' ∨ closure' = { closure with stage } := by
  rw [closures] at there
  obtain ⟨before, was, ⟨rfl, rfl⟩ | ⟨_, rfl⟩⟩ := modify_cases there
  · obtain rfl := Option.some.inj (found.symm.trans was)
    exact Or.inr rfl
  · exact Or.inl was

omit [DecidableEq η] in
theorem unclosed_moveClosure {i k : Nat} {stage : Closing}
    (closures : r'.closures = r.closures.modify k fun closure => { closure with stage }) (unclosed : Unclosed i r') :
    Unclosed i r := by
  intro j closure there
  have kept : ∃ (j' : Nat) (closure' : Closure η), r'.closures[j']? = some closure' ∧
      closure'.subscription = closure.subscription := by
    rw [closures]
    exact exists_modify (fun _ _ => id) ⟨j, closure, there, rfl⟩
  obtain ⟨j', closure', there', same⟩ := kept
  rw [← same]
  exact unclosed j' closure' there'

omit [DecidableEq η] in
theorem exists_moveClosure {P : Closure η → Prop} {k : Nat} {closure : Closure η} {stage : Closing}
    (found : r.closures[k]? = some closure)
    (closures : r'.closures = r.closures.modify k fun closure => { closure with stage })
    (keeps : P closure → P { closure with stage })
    (before : ∃ (j : Nat) (other : Closure η), r.closures[j]? = some other ∧ P other) :
    ∃ (j : Nat) (other : Closure η), r'.closures[j]? = some other ∧ P other := by
  rw [closures]
  refine exists_modify (fun other was holds => ?_) before
  obtain rfl := Option.some.inj (found.symm.trans was)
  exact keeps holds

omit [DecidableEq η] in
theorem closed_moveClosure {k : Nat} {closure : Closure η} {stage : Closing} (r' : Registry η) (sound : Sound r)
    (found : r.closures[k]? = some closure) (opened : r'.opened = r.opened)
    (closures : r'.closures = r.closures.modify k fun closure => { closure with stage }) {j : Nat}
    {closure' : Closure η} (there : r'.closures[j]? = some closure') :
    ∃ call : Subscription η, r'.opened[closure'.subscription]? = some call ∧ call.stage = .returned := by
  rw [opened]
  rcases closures_cases found closures there with old | rfl
  · exact sound.closed j closure' old
  · exact sound.closed k closure found

omit [DecidableEq η] in
theorem sound_looks {k : Nat} {closure : Closure η} {stage : Closing} (sound : Sound r)
    (found : r.closures[k]? = some closure) (late : closure.stage ≠ .dropped ∧ closure.stage ≠ .emptied)
    (finds : ∀ set, stage = .found set → r.stored closure.channelId = some set)
    (empties : ∀ set, closure.stage = .removed set → r.sets[set]? = some [] → stage = .emptied) :
    Sound (r.moveClosure k stage) := by
  have closures : (r.moveClosure k stage).closures = r.closures.modify k fun closure => { closure with stage } := rfl
  refine ⟨sound.held, fun j call stands => ?_, sound.checked, sound.missed,
    fun j closure' there => closed_moveClosure (r.moveClosure k stage) sound found rfl closures there, sound.made,
    fun j closure' set there stage' => ?_, sound.apart, fun channelId set stored none => ?_, sound.said,
    fun present channelId stored => ?_⟩
  · exact sound.stands j call ⟨stands.1, stands.2.1, unclosed_moveClosure closures stands.2.2⟩
  · rcases closures_cases found closures there with old | rfl
    · exact sound.found j closure' set old stage'
    · have now := finds set stage'
      exact ⟨sound.made closure.channelId set now, fun other stored => sound.apart other closure.channelId set stored now⟩
  · refine (sound.empty channelId set stored none).imp_right (exists_moveClosure found closures ?_)
    rintro ⟨own, removed | emptied⟩
    · exact ⟨own, Or.inr (empties set removed none)⟩
    · exact absurd emptied late.2
  · refine (sound.unsaid present channelId stored).imp_right (exists_moveClosure found closures ?_)
    rintro ⟨_, dropped⟩
    exact absurd dropped late.1

theorem sound_removes {k : Nat} {closure : Closure η} {set : Nat} (sound : Sound r) (found : r.closures[k]? = some closure)
    (stage : closure.stage = .found set)
    (alone : r.stored closure.channelId = some set → ∀ (i : Nat) (call : Subscription η), Stands i call r →
      call.channelId = closure.channelId → call.listener ≠ closure.listener) :
    Sound ({ r with sets := r.sets.modify set fun listeners => listeners.erase closure.listener }.moveClosure k
      (.removed set)) := by
  obtain ⟨r', same⟩ : ∃ r', r' =
      { r with sets := r.sets.modify set fun listeners => listeners.erase closure.listener }.moveClosure k (.removed set) :=
    ⟨_, rfl⟩
  rw [← same]
  have rest : r'.webSocket = r.webSocket ∧ r'.opened = r.opened ∧ r'.frames = r.frames ∧
      (∀ channelId, r'.stored channelId = r.stored channelId) ∧
      r'.closures = r.closures.modify k (fun closure => { closure with stage := .removed set }) ∧
      r'.sets = r.sets.modify set fun listeners => listeners.erase closure.listener := by
    rw [same]
    exact ⟨rfl, rfl, rfl, fun _ => rfl, rfl, rfl⟩
  obtain ⟨webSocket, opened, frames, stored, closures, sets⟩ := rest
  obtain ⟨_, only⟩ := sound.found k closure set found stage
  refine ⟨fun i call b set' there holding => ?_, fun i call stands => ?_, fun present i call there checked => ?_,
    fun present i call there => ?_, fun j closure' there => closed_moveClosure r' sound found opened closures there,
    fun channelId set' now => ?_, fun j closure' set' there stage' => ?_, fun channelId other set' now now' => ?_,
    fun channelId set' now none => ?_, fun present channelId now => ?_, fun present channelId now => ?_⟩
  · rw [opened] at there
    rw [stored]
    exact sound.held i call b set' there holding
  · have before : Stands i call r := ⟨opened ▸ stands.1, stands.2.1, unclosed_moveClosure closures stands.2.2⟩
    refine listens_of_sets (sound.stands i call before) (stored _) fun set' listeners now there member => ?_
    by_cases own : set' = set
    · subst own
      refine ⟨listeners.erase closure.listener, by rw [sets, List.getElem?_modify_eq, there]; rfl, ?_⟩
      have mine := only call.channelId now
      exact (List.mem_erase_of_ne (alone (mine ▸ now) i call before mine)).mpr member
    · exact ⟨listeners, by rw [sets, List.getElem?_modify_ne _ _ (Ne.symm own), there], member⟩
  · rw [opened] at there
    rw [stored]
    exact sound.checked (webSocket ▸ present) i call there checked
  · rw [opened] at there
    exact sound.missed (webSocket ▸ present) i call there
  · rw [stored] at now
    rw [sets, List.length_modify]
    exact sound.made channelId set' now
  · rw [sets, List.length_modify]
    simp only [stored]
    rcases closures_cases found closures there with old | rfl
    · exact sound.found j closure' set' old stage'
    · cases stage'
  · rw [stored] at now now'
    exact sound.apart channelId other set' now now'
  · rw [stored] at now
    rw [opened]
    by_cases own : set' = set
    · refine Or.inr ⟨k, { closure with stage := .removed set }, ?_, ?_, Or.inl (by rw [own])⟩
      · rw [closures, List.getElem?_modify_eq, found]
        rfl
      · exact (only channelId (own ▸ now)).symm
    · rw [sets, List.getElem?_modify_ne _ _ (Ne.symm own)] at none
      refine (sound.empty channelId set' now none).imp_right (exists_moveClosure found closures ?_)
      rintro ⟨_, removed | emptied⟩
      · exact absurd (stage.symm.trans removed) (by simp)
      · exact absurd (stage.symm.trans emptied) (by simp)
  · rw [stored] at now
    rw [frames, Owed, opened]
    exact sound.said (webSocket ▸ present) channelId now
  · rw [stored] at now
    rw [frames]
    refine (sound.unsaid (webSocket ▸ present) channelId now).imp_right (exists_moveClosure found closures ?_)
    rintro ⟨_, dropped⟩
    exact absurd (stage.symm.trans dropped) (by simp)

omit [DecidableEq η] in
theorem sound_drops {k : Nat} {closure : Closure η} (sound : Sound r) (found : r.closures[k]? = some closure)
    (deserted : ∀ (i : Nat) (call : Subscription η), r.opened[i]? = some call → call.channelId = closure.channelId →
      ¬Stands i call r ∧ (∀ b set, call.stage ≠ .holding b set) ∧ (r.webSocket = true → call.stage ≠ .checked false)) :
    Sound ({ r with subscriptions := AList.erase closure.channelId r.subscriptions }.moveClosure k .dropped) := by
  obtain ⟨r', same⟩ : ∃ r', r' =
      { r with subscriptions := AList.erase closure.channelId r.subscriptions }.moveClosure k .dropped := ⟨_, rfl⟩
  rw [← same]
  have rest : r'.webSocket = r.webSocket ∧ r'.opened = r.opened ∧ r'.frames = r.frames ∧ r'.sets = r.sets ∧
      r'.closures = r.closures.modify k (fun closure => { closure with stage := .dropped }) := by
    rw [same]
    exact ⟨rfl, rfl, rfl, rfl, rfl⟩
  obtain ⟨webSocket, opened, frames, sets, closures⟩ := rest
  have gone : r'.stored closure.channelId = none := by
    rw [same]
    exact AList.lookup_erase _ _
  have stored : ∀ channelId, channelId ≠ closure.channelId → r'.stored channelId = r.stored channelId := by
    intro channelId other
    rw [same]
    exact AList.lookup_erase_ne other
  have left : ∀ channelId set, r'.stored channelId = some set →
      channelId ≠ closure.channelId ∧ r.stored channelId = some set := by
    intro channelId set now
    have other : channelId ≠ closure.channelId := by
      rintro rfl
      exact absurd (gone.symm.trans now) (by simp)
    exact ⟨other, stored channelId other ▸ now⟩
  refine ⟨fun i call b set there holding => ?_, fun i call stands => ?_, fun present i call there checked => ?_,
    fun present i call there => ?_, fun j closure' there => closed_moveClosure r' sound found opened closures there,
    fun channelId set now => ?_, fun j closure' set there stage => ?_, fun channelId other set now now' => ?_,
    fun channelId set now none => ?_, fun present channelId now => ?_, fun present channelId now => ?_⟩
  · rw [opened] at there
    rw [stored _ fun mine => (deserted i call there mine).2.1 b set holding]
    exact sound.held i call b set there holding
  · have before : Stands i call r := ⟨opened ▸ stands.1, stands.2.1, unclosed_moveClosure closures stands.2.2⟩
    refine listens_of_sets (sound.stands i call before) ?_ fun set listeners _ there member => ⟨listeners, ?_, member⟩
    · exact stored _ fun mine => (deserted i call before.1 mine).1 before
    · rwa [sets]
  · rw [opened] at there
    rw [stored _ fun mine => (deserted i call there mine).2.2 (webSocket ▸ present) checked]
    exact sound.checked (webSocket ▸ present) i call there checked
  · rw [opened] at there
    exact sound.missed (webSocket ▸ present) i call there
  · rw [sets]
    exact sound.made channelId set (left channelId set now).2
  · rw [sets]
    rcases closures_cases found closures there with old | rfl
    · obtain ⟨bound, only⟩ := sound.found j closure' set old stage
      exact ⟨bound, fun channelId now => only channelId (left channelId set now).2⟩
    · cases stage
  · exact sound.apart channelId other set (left channelId set now).2 (left other set now').2
  · obtain ⟨other, before⟩ := left channelId set now
    rw [sets] at none
    rw [opened]
    refine (sound.empty channelId set before none).imp_right (exists_moveClosure found closures ?_)
    rintro ⟨own, _⟩
    exact absurd own.symm other
  · obtain ⟨set, now⟩ := Option.isSome_iff_exists.mp now
    obtain ⟨_, before⟩ := left channelId set now
    rw [frames, Owed, opened]
    exact sound.said (webSocket ▸ present) channelId (by rw [before]; rfl)
  · by_cases mine : channelId = closure.channelId
    · refine Or.inr ⟨k, { closure with stage := .dropped }, ?_, mine.symm, rfl⟩
      rw [closures, List.getElem?_modify_eq, found]
      rfl
    · rw [stored channelId mine] at now
      rw [frames]
      exact (sound.unsaid (webSocket ▸ present) channelId now).imp_right
        (exists_moveClosure found closures fun ⟨own, _⟩ => absurd own.symm mine)

omit [DecidableEq η] in
theorem sound_ends {k : Nat} {closure : Closure η} (sound : Sound r) (found : r.closures[k]? = some closure)
    (stage : closure.stage = .dropped)
    (owed : r.webSocket = true → (r.stored closure.channelId).isSome → Owed closure.channelId r) :
    Sound ((r.send .unsub closure.channelId).moveClosure k .done) := by
  obtain ⟨r', same⟩ : ∃ r', r' = (r.send .unsub closure.channelId).moveClosure k .done := ⟨_, rfl⟩
  rw [← same]
  have rest : r'.webSocket = r.webSocket ∧ r'.opened = r.opened ∧ r'.sets = r.sets ∧
      r'.subscriptions = r.subscriptions ∧
      r'.closures = r.closures.modify k (fun closure => { closure with stage := .done }) ∧
      (r.webSocket = true → r'.frames = r.frames ++ [(.unsub, closure.channelId)]) := by
    obtain ⟨webSocket, opened, closures, sets, subscriptions, frames⟩ := send_fields .unsub closure.channelId r
    rw [same]
    exact ⟨webSocket, opened, sets, subscriptions, congrArg (List.modify · k _) closures, frames⟩
  obtain ⟨webSocket, opened, sets, subscriptions, closures, frames⟩ := rest
  have stored : ∀ channelId, r'.stored channelId = r.stored channelId := by
    intro channelId
    rw [Registry.stored, subscriptions]
    rfl
  refine ⟨fun i call b set there holding => ?_, fun i call stands => ?_, fun present i call there checked => ?_,
    fun present i call there => ?_, fun j closure' there => closed_moveClosure r' sound found opened closures there,
    fun channelId set now => ?_, fun j closure' set there stage' => ?_, fun channelId other set now now' => ?_,
    fun channelId set now none => ?_, fun present channelId now => ?_, fun present channelId now => ?_⟩
  · rw [opened] at there
    rw [stored]
    exact sound.held i call b set there holding
  · have before : Stands i call r := ⟨opened ▸ stands.1, stands.2.1, unclosed_moveClosure closures stands.2.2⟩
    refine listens_of_sets (sound.stands i call before) (stored _) fun set listeners _ there member => ⟨listeners, ?_, member⟩
    rwa [sets]
  · rw [opened] at there
    rw [stored]
    exact sound.checked (webSocket ▸ present) i call there checked
  · rw [opened] at there
    exact sound.missed (webSocket ▸ present) i call there
  · rw [stored] at now
    rw [sets]
    exact sound.made channelId set now
  · rw [sets]
    simp only [stored]
    rcases closures_cases found closures there with old | rfl
    · exact sound.found j closure' set old stage'
    · cases stage'
  · rw [stored] at now now'
    exact sound.apart channelId other set now now'
  · rw [stored] at now
    rw [sets] at none
    rw [opened]
    refine (sound.empty channelId set now none).imp_right (exists_moveClosure found closures ?_)
    rintro ⟨_, removed | emptied⟩
    · exact absurd (stage.symm.trans removed) (by simp)
    · exact absurd (stage.symm.trans emptied) (by simp)
  · rw [stored] at now
    rw [frames (webSocket ▸ present), Owed, opened, lastWord_concat]
    split
    · rename_i mine
      exact Or.inr (mine ▸ owed (webSocket ▸ present) (mine ▸ now))
    · exact sound.said (webSocket ▸ present) channelId now
  · rw [stored] at now
    rw [frames (webSocket ▸ present), lastWord_concat]
    split
    · exact Or.inl (by simp)
    · rename_i other
      exact (sound.unsaid (webSocket ▸ present) channelId now).imp_right
        (exists_moveClosure found closures fun ⟨own, _⟩ => absurd own other)

omit [DecidableEq η] in
theorem sound_start (webSocket : Bool) : Sound ({ webSocket } : Registry η) := by
  have nothing : ∀ channelId, stored channelId ({ webSocket } : Registry η) = none := fun _ => rfl
  constructor <;> simp [nothing, Stands, entered, lastWord]

theorem sound_advance {i : Nat} {call : Subscription η} (sound : Sound r) (found : r.opened[i]? = some call)
    (taken : r.advance i call = some r') : Sound r' := by
  unfold advance at taken
  split at taken
  · rename_i stage
    rw [← Option.some.inj taken]
    refine sound_reads sound found ?_ ?_ ?_ rfl (by simp) (fun _ checked => ?_) fun _ => by simp
    · rw [stage]
      rfl
    · simp [stage]
    · simp [stage, owes]
    · injection checked with there
      rwa [Option.isNone_eq_false_iff] at there
  · rename_i b stage
    have early : entered call.stage = false := by rw [stage]; rfl
    have free : ∀ b set, call.stage ≠ .holding b set := by rw [stage]; simp
    have owing : owes call.stage = true → b = true := by rw [stage]; exact id
    split at taken
    · rename_i set stored
      rw [← Option.some.inj taken]
      refine sound_reads sound found early free owing rfl (fun _ _ same => ?_) (fun _ => by simp) fun _ => by simp
      injection same with _ same
      exact same ▸ stored
    · rename_i stored
      rw [← Option.some.inj taken]
      refine sound_reads sound found early free owing rfl (by simp) (fun _ => by simp) fun present missed => ?_
      injection missed with absent
      have there := sound.checked present i call found (absent ▸ stage)
      rw [stored] at there
      cases there
  · rename_i b stage
    split at taken
    · rename_i set stored
      rw [← Option.some.inj taken]
      refine sound_reads sound found ?_ ?_ ?_ rfl (fun _ _ same => ?_) (fun _ => by simp) fun _ => by simp
      · rw [stage]
        rfl
      · rw [stage]
        simp
      · rw [stage]
        exact id
      · injection same with _ same
        exact same ▸ stored
    · rw [← Option.some.inj taken]
      exact sound_puts sound found stage ‹_›
  · rw [← Option.some.inj taken]
    exact sound_adds sound found ‹_›
  · rw [← Option.some.inj taken]
    exact sound_returns sound found ‹_›
  · cases taken

theorem sound_proceed {k : Nat} {closure : Closure η} (sound : Sound r) (found : r.closures[k]? = some closure)
    (undisturbed : Undisturbed r (.proceed k)) (taken : r.proceed k closure = some r') : Sound r' := by
  have free := undisturbed closure found
  unfold proceed at taken
  split at taken
  · rename_i stage
    have late : closure.stage ≠ .dropped ∧ closure.stage ≠ .emptied := by rw [stage]; exact ⟨by simp, by simp⟩
    have unread : ∀ set, closure.stage ≠ .removed set := by rw [stage]; simp
    split at taken
    · rename_i current stored
      rw [← Option.some.inj taken]
      refine sound_looks sound found late (fun set same => ?_) fun set removed => absurd removed (unread set)
      injection same with same
      exact same ▸ stored
    · rw [← Option.some.inj taken]
      exact sound_looks sound found late (by simp) fun set removed => absurd removed (unread set)
  · rename_i current stage
    rw [stage] at free
    rw [← Option.some.inj taken]
    exact sound_removes sound found stage free
  · rename_i current stage
    rw [← Option.some.inj taken]
    refine sound_looks sound found ?_ (fun set same => ?_) fun set removed empty => ?_
    · rw [stage]
      exact ⟨by simp, by simp⟩
    · split at same <;> cases same
    · rw [stage] at removed
      injection removed with own
      rw [own, if_pos empty]
  · rename_i stage
    rw [stage] at free
    rw [← Option.some.inj taken]
    exact sound_drops sound found free
  · rename_i stage
    rw [stage] at free
    rw [← Option.some.inj taken]
    exact sound_ends sound found stage free
  · cases taken

theorem sound_step {e : RegistryEvent η} (sound : Sound r) (undisturbed : Undisturbed r e)
    (taken : Registry.step r e = some r') : Sound r' := by
  cases e with
  | subscribe channelId listener => exact Option.some.inj taken ▸ sound_subscribe channelId listener sound
  | advance i =>
      obtain ⟨call, found, taken⟩ := Option.bind_eq_some_iff.mp taken
      exact sound_advance sound found taken
  | close i =>
      obtain ⟨call, found, taken⟩ := Option.bind_eq_some_iff.mp taken
      obtain ⟨returned, same⟩ := Option.ite_none_right_eq_some.mp taken
      exact Option.some.inj same ▸ sound_close sound found returned
  | proceed k =>
      obtain ⟨closure, found, taken⟩ := Option.bind_eq_some_iff.mp taken
      exact sound_proceed sound found undisturbed taken

end

/-- However the steps of any number of calls interleave, no listener is lost and the server knows the channels that
have one, as long as no closing is disturbed. -/
theorem kept_of_undisturbed (webSocket : Bool) (es : List (RegistryEvent η))
    (undisturbed : Registry.step.Meets Undisturbed { webSocket } es) :
    Registry.step.Throughout Kept { webSocket } es :=
  Step.throughout_of_meets (fun _ _ _ sound now taken => sound_step sound now taken) (fun _ => kept_of_sound)
    (sound_start webSocket) undisturbed

def subscribed : List (RegistryEvent Nat) :=
  [.subscribe "room" 1, .advance 0, .advance 0, .advance 0, .advance 0, .advance 0]

theorem kept_of_undisturbed_subscribed : Registry.step.Throughout Kept ({ webSocket := true } : Registry Nat)
    (subscribed ++ [.close 0, .proceed 0, .proceed 0]) := by
  refine kept_of_undisturbed true _ ?_
  iterate 7 refine Step.meets_cons trivial rfl ?_
  refine Step.meets_cons (fun closure found => ?_) rfl (Step.meets_cons (fun closure found => ?_) rfl trivial)
  all_goals obtain rfl := Option.some.inj found
  · trivial
  · rintro _ (_ | i) call ⟨there, _, unclosed⟩ _
    · exact absurd rfl (unclosed 0 _ rfl)
    · cases there

def overtaken : List (RegistryEvent Nat) :=
  subscribed ++ [.subscribe "room" 2, .advance 1, .advance 1, .close 0, .proceed 0, .proceed 0, .proceed 0, .advance 1,
    .proceed 0, .advance 1, .proceed 0]

theorem overtaken_loses : ∃ r, Registry.step.run ({ webSocket := true } : Registry Nat) overtaken = some r ∧
    r.opened[1]? = some ⟨"room", 2, .returned⟩ ∧ Unclosed 1 r ∧ r.stored "room" = none ∧
    lastWord "room" r.frames = some .unsub ∧ ¬Kept r := by
  have unclosed : ∀ r : Registry Nat, r.closures = [⟨0, "room", 1, .done⟩] → Unclosed 1 r := by
    rintro r closures (_ | k) closure there
    · rw [closures] at there
      obtain rfl := Option.some.inj there
      simp
    · rw [closures] at there
      cases there
  refine ⟨_, rfl, rfl, unclosed _ rfl, rfl, rfl, fun kept => ?_⟩
  obtain ⟨_, _, stored, _⟩ := kept.listening 1 ⟨"room", 2, .returned⟩ rfl rfl (unclosed _ rfl)
  cases stored

end RealtimePlatform.Proof.AndroidListeners
