import RealtimePlatform.Backend.PushSubscriptions
import RealtimePlatform.Backend.Delivery
import RealtimePlatform.Sdk.Session

namespace RealtimePlatform.Proof.PatternMatching
open Library Utf16 Backend PushSubscriptionRepository ChannelRouterService Sdk

/-- The server matches a pattern with what has a substring in place of each of its stars, and every client
matches as the server does. -/
theorem globMatch_iff (pattern candidate : String) :
    (Backend.globMatch pattern candidate = true ↔
      ∃ fillers, fillers.length + 1 = (pattern.toList.splitOn '*').length ∧
        candidate.toList = woven (pattern.toList.splitOn '*') fillers) ∧
    Sdk.globMatch (ofString pattern) (ofString candidate) = Backend.globMatch pattern candidate ∧
    Kotlin.globMatch (ofString pattern) (ofString candidate) = Backend.globMatch pattern candidate ∧
    WordPress.globMatch (ofString pattern) (ofString candidate) = Backend.globMatch pattern candidate ∧
    Python.globMatch pattern.toList candidate.toList = Backend.globMatch pattern candidate := by
  refine ⟨?_, globMatch_eq pattern candidate, globMatch_eq pattern candidate,
    globMatch_eq pattern candidate, (globMatch_server pattern candidate).symm⟩
  rw [globMatch_server]
  exact glob_iff_woven

variable {α : Type*}

def subscribeAll (tenantId : TenantId) (session : SessionId) (r : ChannelRouterService α) (seq : Nat) :
    List String → Except RouterError (ChannelRouterService α)
  | [] => .ok r
  | name :: names =>
    if isPattern name then
      subscribeAll tenantId session (r.subscribeWildcard tenantId name ⟨session, seq⟩) (seq + 1) names
    else match r.subscribe tenantId ⟨tenantId, name⟩ ⟨session, seq⟩ with
      | .error err => .error err
      | .ok r => subscribeAll tenantId session r (seq + 1) names

/-- One of the receivers that the session has obtained for the list gets what is published on the channel. -/
def Hears (tenantId : TenantId) (session : SessionId) (names : List String) (channelId : String) (frame : α)
    (nowSecs : Nat) (r : ChannelRouterService α) : Prop :=
  ∃ r', subscribeAll tenantId session r 0 names = .ok r' ∧ ∃ i name, names[i]? = some name ∧
    (r'.publish tenantId ⟨tenantId, channelId⟩ frame nowSecs).2.receive (sourceNamed tenantId name)
      ⟨session, i⟩ 0 = .message frame

section
variable {tenantId : TenantId} {session : SessionId} {channelId : String} {frame : α} {nowSecs : Nat}

theorem subscribeAll_spec (names : List String) (r : ChannelRouterService α) (seq : Nat) :
    ∃ r', subscribeAll tenantId session r seq names = .ok r' ∧
      (∀ i name, names[i]? = some name → r'.sent (sourceNamed tenantId name) ⟨session, seq + i⟩ = some []) ∧
      ∀ source q, (q.session = session → q.seq < seq) → r'.sent source q = r.sent source q := by
  induction names generalizing r seq with
  | nil => exact ⟨r, rfl, by simp, fun _ _ _ => rfl⟩
  | cons name names ih =>
      have one : ∃ r₁, subscribeAll tenantId session r seq (name :: names) =
          subscribeAll tenantId session r₁ (seq + 1) names ∧
          ∀ source q, r₁.sent source q =
            if source = sourceNamed tenantId name ∧ q = ⟨session, seq⟩ then some [] else r.sent source q := by
        rw [subscribeAll, sourceNamed]
        cases pattern : isPattern name with
        | true => exact ⟨_, if_pos rfl, fun source q => sent_subscribeWildcard ..⟩
        | false =>
            have joined := subscribe_own ⟨tenantId, name⟩ ⟨session, seq⟩ r
            dsimp only at joined
            rw [joined]
            exact ⟨_, if_neg Bool.false_ne_true, fun source q => sent_attach ..⟩
      obtain ⟨r₁, first, sent⟩ := one
      obtain ⟨r', rest, own, others⟩ := ih r₁ (seq + 1)
      refine ⟨r', first.trans rest, ?_, ?_⟩
      · intro i listed found
        cases i with
        | zero =>
            rw [List.getElem?_cons_zero, Option.some.injEq] at found
            rw [← found, others _ _ fun _ => Nat.lt_succ_self seq, sent, if_pos ⟨rfl, rfl⟩]
        | succ i =>
            rw [List.getElem?_cons_succ] at found
            rw [show seq + (i + 1) = seq + 1 + i by omega]
            exact own i listed found
      · intro source q early
        rw [others source q fun same => Nat.lt_succ_of_lt (early same), sent, if_neg]
        rintro ⟨_, rfl⟩
        exact Nat.lt_irrefl seq (early rfl)

theorem receive_publish_iff {r : ChannelRouterService α} {source : Source} {rx : ReceiverId}
    (fresh : r.sent source rx = some []) :
    (r.publish tenantId ⟨tenantId, channelId⟩ frame nowSecs).2.receive source rx 0 = .message frame ↔
      source.matches ⟨tenantId, channelId⟩ = true := by
  have sent := sent_publish (r := r) tenantId ⟨tenantId, channelId⟩ frame nowSecs source rx
  rw [fresh] at sent
  by_cases hit : source.matches ⟨tenantId, channelId⟩ = true
  · rw [if_pos ⟨rfl, hit⟩] at sent
    exact iff_of_true (receive_of_sent sent (by simp [channelCapacity]) rfl) hit
  · rw [if_neg fun both => hit both.2] at sent
    rw [receive_eq sent, if_neg (by simp [channelCapacity])]
    exact iff_of_false (by rintro ⟨⟩) hit

theorem wanted_iff (name : String) : (name == channelId || globMatch name channelId) = true ↔
    (sourceNamed tenantId name).matches ⟨tenantId, channelId⟩ = true := by
  rw [Bool.or_eq_true, beq_iff_eq, sourceNamed]
  cases pattern : isPattern name with
  | true =>
      have self : name = channelId → globMatch name channelId = true := by
        rintro rfl
        rw [globMatch_server]
        exact glob_self '*' name.toList
      rw [if_pos rfl, Source.matches, Bool.and_eq_true, or_iff_right_of_imp self]
      exact (and_iff_right (decide_eq_true rfl)).symm
  | false =>
      have literal : '*' ∉ name.toList := by
        intro member
        rw [isPattern, List.contains_iff_mem.mpr member] at pattern
        cases pattern
      rw [if_neg Bool.false_ne_true, Source.matches, decide_eq_true_eq, ChannelKey.mk.injEq,
        globMatch_server, glob_literal_iff literal, String.toList_inj]
      constructor
      · rintro (same | same)
        · exact ⟨rfl, same⟩
        · exact ⟨rfl, same.symm⟩
      · rintro ⟨_, same⟩
        exact Or.inl same

theorem hears_iff (names : List String) (r : ChannelRouterService α) :
    Hears tenantId session names channelId frame nowSecs r ↔
      ∃ name ∈ names, (sourceNamed tenantId name).matches ⟨tenantId, channelId⟩ = true := by
  obtain ⟨r', subscribed, fresh, _⟩ := @subscribeAll_spec α tenantId session names r 0
  constructor
  · rintro ⟨r₁, same, i, name, found, got⟩
    obtain rfl := Except.ok.inj (subscribed.symm.trans same)
    have own := fresh i name found
    rw [Nat.zero_add] at own
    exact ⟨name, List.mem_of_getElem? found, (receive_publish_iff own).mp got⟩
  · rintro ⟨name, member, hit⟩
    obtain ⟨i, found⟩ := List.mem_iff_getElem?.mp member
    have own := fresh i name found
    rw [Nat.zero_add] at own
    exact ⟨r', subscribed, i, name, found, (receive_publish_iff own).mpr hit⟩

end

/-- A stored subscription is found for a channel exactly when a session that has subscribed to each name of
its list receives what is published there. -/
theorem findMatching_iff_hears {repo : PushSubscriptionRepository} {tenantId : TenantId} {sub : PushSubscription}
    (stored : ∃ row ∈ repo.rowsOf tenantId, row.subscription = sub) (channelId : String) (session : SessionId)
    (frame : α) (nowSecs : Nat) (r : ChannelRouterService α) :
    sub ∈ repo.findMatching tenantId channelId ↔
      Hears tenantId session sub.channels channelId frame nowSecs r := by
  rw [hears_iff, findMatching, List.mem_filter, List.mem_map, and_iff_right stored, wants, List.any_eq_true]
  exact exists_congr fun name => and_congr_right fun _ => wanted_iff name

def phone : PushSubscription where
  endpoint := "https://push"
  tenantId := List.Vector.replicate 16 1
  sub := "alice"
  p256dhKey := "p256dh"
  authKey := "auth"
  channels := ["orders:*", "lobby"]
  deviceLabel := none

theorem findMatching_iff_hears_phone :
    phone ∈ (PushSubscriptionRepository.new.upsert phone 0).findMatching phone.tenantId "orders:7" ↔
      Hears phone.tenantId (List.Vector.replicate 16 2) phone.channels "orders:7" "shipped" 0 .new :=
  findMatching_iff_hears ⟨⟨phone, 0⟩,
    List.mem_filter.mpr ⟨List.mem_singleton.mpr rfl, decide_eq_true rfl⟩, rfl⟩ "orders:7" _ "shipped" 0 .new

end RealtimePlatform.Proof.PatternMatching
