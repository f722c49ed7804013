import RealtimePlatform.Backend.Moves

/-!
# The part of a tenant

What a router keeps under one tenant: its channels with their histories and senders, its wildcard
senders and the publishes made for it. An operation on the key of one tenant leaves the part of every
other as it is, and reads nothing outside its own.
-/

namespace RealtimePlatform.Backend
open Library UseCases

namespace ChannelRouterService
variable {α : Type*}

/-- Two routers with the same part of the tenant. -/
structure Agree (tenantId : TenantId) (r r' : ChannelRouterService α) : Prop where
  historyCapacity : r.historyCapacity = r'.historyCapacity
  durable : r.historyPort.isSome = r'.historyPort.isSome
  channels : ∀ key : ChannelKey, key.tenantId = tenantId →
    AList.lookup key r.channels = AList.lookup key r'.channels
  wildcards : ∀ key : WildcardKey, key.tenantId = tenantId →
    AList.lookup key r.wildcards = AList.lookup key r'.wildcards
  journal : (r.journal.filter fun entry => entry.1.tenantId = tenantId) =
    r'.journal.filter fun entry => entry.1.tenantId = tenantId

namespace Agree
variable {tenantId : TenantId} {r r' r'' : ChannelRouterService α}

theorem refl (tenantId : TenantId) (r : ChannelRouterService α) : Agree tenantId r r :=
  ⟨rfl, rfl, fun _ _ => rfl, fun _ _ => rfl, rfl⟩

theorem symm (agree : Agree tenantId r r') : Agree tenantId r' r :=
  ⟨agree.historyCapacity.symm, agree.durable.symm, fun key own => (agree.channels key own).symm,
    fun key own => (agree.wildcards key own).symm, agree.journal.symm⟩

theorem trans (agree : Agree tenantId r r') (next : Agree tenantId r' r'') : Agree tenantId r r'' :=
  ⟨agree.historyCapacity.trans next.historyCapacity, agree.durable.trans next.durable,
    fun key own => (agree.channels key own).trans (next.channels key own),
    fun key own => (agree.wildcards key own).trans (next.wildcards key own),
    agree.journal.trans next.journal⟩

theorem both_sides {f : ChannelRouterService α → ChannelRouterService α}
    (agree : Agree tenantId r r') (keeps : ∀ q, Agree tenantId q (f q)) :
    Agree tenantId (f r) (f r') :=
  (keeps r).symm.trans (agree.trans (keeps r'))

theorem freshChannel (agree : Agree tenantId r r') : r.freshChannel = r'.freshChannel := by
  simp only [ChannelRouterService.freshChannel, agree.historyCapacity]

theorem getOrCreateChannel (agree : Agree tenantId r r') {key : ChannelKey}
    (own : key.tenantId = tenantId) : r.getOrCreateChannel key = r'.getOrCreateChannel key := by
  simp only [ChannelRouterService.getOrCreateChannel, agree.channels key own, agree.freshChannel]

theorem delivered (agree : Agree tenantId r r') {key : ChannelKey} (own : key.tenantId = tenantId) :
    r.delivered key = r'.delivered key := by
  have hit : ∀ wk : WildcardKey, (Source.wildcard wk).matches key = true →
      AList.lookup wk r.wildcards = AList.lookup wk r'.wildcards :=
    fun wk hit => agree.wildcards wk ((Source.tenantId_of_matches hit).trans own)
  have same := Table.entries_filter_perm (fun wk => (Source.wildcard wk).matches key) hit
  unfold ChannelRouterService.delivered fanout
  rw [agree.getOrCreateChannel own]
  exact congrArg _ ((same.map (·.2)).map Bus.receiverCount).sum_eq

theorem upsert_other {key : ChannelKey} (others : key.tenantId ≠ tenantId) (fresh : ChannelState α)
    (f : ChannelState α → ChannelState α) (r : ChannelRouterService α) :
    Agree tenantId r { r with channels := Table.upsert key fresh f r.channels } where
  historyCapacity := rfl
  durable := rfl
  channels k own := by
    have apart : k ≠ key := fun same => others (same ▸ own)
    exact (Table.lookup_upsert_ne _ _ _ apart).symm
  wildcards _ _ := rfl
  journal := rfl

theorem upsert (agree : Agree tenantId r r') (key : ChannelKey) (f : ChannelState α → ChannelState α) :
    Agree tenantId { r with channels := Table.upsert key r.freshChannel f r.channels }
      { r' with channels := Table.upsert key r'.freshChannel f r'.channels } := by
  by_cases own : key.tenantId = tenantId
  · refine ⟨agree.historyCapacity, agree.durable, fun k named => ?_, agree.wildcards, agree.journal⟩
    show AList.lookup k (Table.upsert _ _ _ _) = AList.lookup k (Table.upsert _ _ _ _)
    by_cases here : k = key
    · subst here
      rw [Table.lookup_upsert, Table.lookup_upsert, agree.channels k own, agree.freshChannel]
    · rw [Table.lookup_upsert_ne _ _ _ here, Table.lookup_upsert_ne _ _ _ here,
        agree.channels k named]
  · exact ((upsert_other own _ f r).symm.trans agree).trans (upsert_other own _ f r')

theorem attach_other (key : ChannelKey) (others : key.tenantId ≠ tenantId) (rx : ReceiverId)
    (r : ChannelRouterService α) : Agree tenantId r (r.attach key rx) :=
  upsert_other others _ _ r

theorem attach (agree : Agree tenantId r r') (key : ChannelKey) (rx : ReceiverId) :
    Agree tenantId (r.attach key rx) (r'.attach key rx) :=
  agree.upsert key _

theorem subscribeWildcard_other {named : TenantId} (others : named ≠ tenantId) (pattern : String)
    (rx : ReceiverId) (r : ChannelRouterService α) :
    Agree tenantId r (r.subscribeWildcard named pattern rx) where
  historyCapacity := rfl
  durable := rfl
  channels _ _ := rfl
  wildcards k own := by
    have apart : k ≠ ⟨named, pattern⟩ := by
      rintro rfl
      exact others own
    exact (Table.lookup_upsert_ne _ _ _ apart).symm
  journal := rfl

theorem subscribeWildcard (agree : Agree tenantId r r') (named : TenantId) (pattern : String)
    (rx : ReceiverId) :
    Agree tenantId (r.subscribeWildcard named pattern rx) (r'.subscribeWildcard named pattern rx) := by
  by_cases own : named = tenantId
  · refine ⟨agree.historyCapacity, agree.durable, agree.channels, fun k mine => ?_, agree.journal⟩
    show AList.lookup k (Table.upsert _ _ _ _) = AList.lookup k (Table.upsert _ _ _ _)
    by_cases here : k = ⟨named, pattern⟩
    · subst here
      rw [Table.lookup_upsert, Table.lookup_upsert, agree.wildcards _ own]
    · rw [Table.lookup_upsert_ne _ _ _ here, Table.lookup_upsert_ne _ _ _ here,
        agree.wildcards k mine]
  · exact agree.both_sides fun q => subscribeWildcard_other own pattern rx q

theorem publish_other (key : ChannelKey) (others : key.tenantId ≠ tenantId) (named : TenantId) (frame : α)
    (nowSecs : Nat) (r : ChannelRouterService α) :
    Agree tenantId r (r.publish named key frame nowSecs).2 := by
  unfold ChannelRouterService.publish
  by_cases foreign : named ≠ key.tenantId
  · rw [if_pos foreign]
    exact refl tenantId r
  · rw [if_neg foreign]
    refine ⟨rfl, by simp, fun k own => ?_, fun wk own => ?_, ?_⟩
    · have apart : k ≠ key := fun same => others (same ▸ own)
      exact (Table.lookup_upsert_ne _ _ _ apart).symm
    · have missed : (Source.wildcard wk).matches key = false :=
        eq_false_of_ne_true fun hit => others ((Source.tenantId_of_matches hit).symm.trans own)
      show _ = AList.lookup wk (Table.rewrite _ _)
      rw [Table.lookup_rewrite]
      cases AList.lookup wk r.wildcards <;> simp [missed]
    · simp [List.filter_append, others]

theorem publish (agree : Agree tenantId r r') (named : TenantId) (key : ChannelKey) (frame : α)
    (nowSecs : Nat) : Agree tenantId (r.publish named key frame nowSecs).2
      (r'.publish named key frame nowSecs).2 := by
  by_cases own : key.tenantId = tenantId
  · unfold ChannelRouterService.publish
    by_cases foreign : named ≠ key.tenantId
    · rw [if_pos foreign, if_pos foreign]
      exact agree
    · rw [if_neg foreign, if_neg foreign]
      refine ⟨agree.historyCapacity, ?_, ?_, fun wk mine => ?_, ?_⟩
      · simpa using agree.durable
      · exact (agree.upsert key _).channels
      · show AList.lookup wk (Table.rewrite _ _) = AList.lookup wk (Table.rewrite _ _)
        rw [Table.lookup_rewrite, Table.lookup_rewrite, agree.wildcards wk mine]
      · rw [List.filter_append, List.filter_append, agree.journal, agree.delivered own]
  · exact agree.both_sides fun q => publish_other key own named frame nowSecs q

theorem replay_other (key : ChannelKey) (others : key.tenantId ≠ tenantId) (redis : RedisStreams α)
    (named : TenantId) (since : Nat) (r : ChannelRouterService α) :
    Agree tenantId r (r.replay redis named key since).2 := by
  unfold ChannelRouterService.replay
  split
  · exact refl tenantId r
  split
  · exact refl tenantId r
  · exact upsert_other others _ _ r

theorem replay (agree : Agree tenantId r r') (redis redis' : RedisStreams α) (named : TenantId)
    (key : ChannelKey) (since : Nat) :
    Agree tenantId (r.replay redis named key since).2 (r'.replay redis' named key since).2 := by
  have durable := agree.durable
  unfold ChannelRouterService.replay
  split
  · exact agree
  cases port : r.historyPort with
  | some adapter =>
      cases port' : r'.historyPort with
      | some adapter' => exact agree
      | none =>
          rw [port, port'] at durable
          cases durable
  | none =>
      cases port' : r'.historyPort with
      | some adapter' =>
          rw [port, port'] at durable
          cases durable
      | none =>
          exact ⟨agree.historyCapacity, rfl, (agree.upsert key id).channels, agree.wildcards,
            agree.journal⟩

theorem pruneEmpty_other (key : ChannelKey) (others : key.tenantId ≠ tenantId)
    (r : ChannelRouterService α) : Agree tenantId r (r.pruneEmpty key) where
  historyCapacity := rfl
  durable := rfl
  channels k own := by
    have apart : k ≠ key := fun same => others (same ▸ own)
    show _ = AList.lookup k (Table.retain _ _)
    rw [Table.lookup_retain]
    cases AList.lookup k r.channels <;> simp [apart, Option.filter]
  wildcards _ _ := rfl
  journal := rfl

theorem pruneEmpty (agree : Agree tenantId r r') (key : ChannelKey) :
    Agree tenantId (r.pruneEmpty key) (r'.pruneEmpty key) := by
  refine ⟨agree.historyCapacity, agree.durable, fun k own => ?_, agree.wildcards, agree.journal⟩
  show AList.lookup k (Table.retain _ _) = AList.lookup k (Table.retain _ _)
  rw [Table.lookup_retain, Table.lookup_retain, agree.channels k own]

theorem pruneDeadWildcards (agree : Agree tenantId r r') :
    Agree tenantId r.pruneDeadWildcards r'.pruneDeadWildcards := by
  refine ⟨agree.historyCapacity, agree.durable, agree.channels, fun wk own => ?_, agree.journal⟩
  show AList.lookup wk (Table.retain _ _) = AList.lookup wk (Table.retain _ _)
  rw [Table.lookup_retain, Table.lookup_retain, agree.wildcards wk own]

theorem detach_other {source : Source} (others : source.tenantId ≠ tenantId) (rx : ReceiverId)
    (r : ChannelRouterService α) : Agree tenantId r (r.detach source rx) := by
  cases source with
  | channel key =>
      refine ⟨rfl, rfl, fun k own => ?_, fun _ _ => rfl, rfl⟩
      have apart : k ≠ key := fun same => others (same ▸ own)
      exact (Table.lookup_adjust_ne _ _ apart).symm
  | wildcard key =>
      refine ⟨rfl, rfl, fun _ _ => rfl, fun k own => ?_, rfl⟩
      have apart : k ≠ key := fun same => others (same ▸ own)
      exact (Table.lookup_adjust_ne _ _ apart).symm

theorem detach (agree : Agree tenantId r r') (source : Source) (rx : ReceiverId) :
    Agree tenantId (r.detach source rx) (r'.detach source rx) := by
  cases source with
  | channel key =>
      refine ⟨agree.historyCapacity, agree.durable, fun k own => ?_, agree.wildcards, agree.journal⟩
      show AList.lookup k (Table.adjust _ _ _) = AList.lookup k (Table.adjust _ _ _)
      by_cases here : k = key
      · subst here
        rw [Table.lookup_adjust, Table.lookup_adjust, agree.channels k own]
      · rw [Table.lookup_adjust_ne _ _ here, Table.lookup_adjust_ne _ _ here, agree.channels k own]
  | wildcard key =>
      refine ⟨agree.historyCapacity, agree.durable, agree.channels, fun k own => ?_, agree.journal⟩
      show AList.lookup k (Table.adjust _ _ _) = AList.lookup k (Table.adjust _ _ _)
      by_cases here : k = key
      · subst here
        rw [Table.lookup_adjust, Table.lookup_adjust, agree.wildcards k own]
      · rw [Table.lookup_adjust_ne _ _ here, Table.lookup_adjust_ne _ _ here, agree.wildcards k own]

theorem sent (agree : Agree tenantId r r') {source : Source} (own : source.tenantId = tenantId)
    (rx : ReceiverId) : r.sent source rx = r'.sent source rx := by
  cases source with
  | channel key => simp only [ChannelRouterService.sent, bus, agree.channels key own]
  | wildcard key => simp only [ChannelRouterService.sent, bus, agree.wildcards key own]

end Agree
end ChannelRouterService

namespace PresenceService

def AgreeOn (own : SessionId → Bool) (p p' : PresenceService) : Prop :=
  ∀ s, own s = true → AList.lookup s p.sessions = AList.lookup s p'.sessions

section
variable {own : SessionId → Bool} {p p' : PresenceService} {s : SessionId}

theorem ne_of_others {q : SessionId} (others : own s = false) (mine : own q = true) : q ≠ s := by
  rintro rfl
  rw [others] at mine
  cases mine

theorem agreeOn_register (agree : AgreeOn own p p') (tenantId : TenantId) (s : SessionId) (sub : String)
    (now : Clock) : AgreeOn own (p.register tenantId s sub now) (p'.register tenantId s sub now) := by
  intro q mine
  show AList.lookup q (AList.insert _ _ _) = AList.lookup q (AList.insert _ _ _)
  by_cases here : q = s
  · rw [here, AList.lookup_insert, AList.lookup_insert]
  · rw [AList.lookup_insert_ne here, AList.lookup_insert_ne here]
    exact agree q mine

theorem agreeOn_register_other (others : own s = false) (tenantId : TenantId) (sub : String)
    (now : Clock) (p : PresenceService) : AgreeOn own p (p.register tenantId s sub now) :=
  fun _ mine => (AList.lookup_insert_ne (ne_of_others others mine)).symm

theorem agreeOn_adjust {f : PresenceEntry → PresenceEntry} (agree : AgreeOn own p p') (s : SessionId) :
    AgreeOn own { p with sessions := Table.adjust s f p.sessions }
      { p' with sessions := Table.adjust s f p'.sessions } := by
  intro q mine
  show AList.lookup q (Table.adjust _ _ _) = AList.lookup q (Table.adjust _ _ _)
  by_cases here : q = s
  · subst here
    rw [Table.lookup_adjust, Table.lookup_adjust, agree q mine]
  · rw [Table.lookup_adjust_ne _ _ here, Table.lookup_adjust_ne _ _ here]
    exact agree q mine

theorem agreeOn_adjust_other {f : PresenceEntry → PresenceEntry} (others : own s = false)
    (p : PresenceService) : AgreeOn own p { p with sessions := Table.adjust s f p.sessions } :=
  fun _ mine => (Table.lookup_adjust_ne _ _ (ne_of_others others mine)).symm

theorem agreeOn_remove (agree : AgreeOn own p p') (s : SessionId) :
    AgreeOn own (p.remove s) (p'.remove s) := by
  intro q mine
  show AList.lookup q (AList.erase _ _) = AList.lookup q (AList.erase _ _)
  by_cases here : q = s
  · rw [here, AList.lookup_erase, AList.lookup_erase]
  · rw [AList.lookup_erase_ne here, AList.lookup_erase_ne here]
    exact agree q mine

theorem agreeOn_remove_other (others : own s = false) (p : PresenceService) :
    AgreeOn own p (p.remove s) :=
  fun _ mine => (AList.lookup_erase_ne (ne_of_others others mine)).symm

end

end PresenceService

namespace RealtimeContext

/-- Two instances with the same part of the tenant and the same entries of the sessions of `own`. -/
structure Agree (tenantId : TenantId) (own : SessionId → Bool) (ctx ctx' : RealtimeContext) : Prop where
  auth : ctx.auth = ctx'.auth
  router : ChannelRouterService.Agree tenantId ctx.channelRouter ctx'.channelRouter
  presence : PresenceService.AgreeOn own ctx.presence ctx'.presence

/-- The sessions outside `own` are not registered for the tenant. -/
def Foreign (tenantId : TenantId) (own : SessionId → Bool) (p : PresenceService) : Prop :=
  ∀ s entry, own s = false → AList.lookup s p.sessions = some entry → entry.tenantId ≠ tenantId

namespace Agree
variable {tenantId : TenantId} {own : SessionId → Bool} {ctx ctx' ctx'' : RealtimeContext}

theorem refl (tenantId : TenantId) (own : SessionId → Bool) (ctx : RealtimeContext) :
    Agree tenantId own ctx ctx :=
  ⟨rfl, .refl tenantId _, fun _ _ => rfl⟩

theorem symm (agree : Agree tenantId own ctx ctx') : Agree tenantId own ctx' ctx :=
  ⟨agree.auth.symm, agree.router.symm, fun s mine => (agree.presence s mine).symm⟩

theorem trans (agree : Agree tenantId own ctx ctx') (next : Agree tenantId own ctx' ctx'') :
    Agree tenantId own ctx ctx'' :=
  ⟨agree.auth.trans next.auth, agree.router.trans next.router,
    fun s mine => (agree.presence s mine).trans (next.presence s mine)⟩

theorem departFrom_other {named : TenantId} (others : named ≠ tenantId) (s : SessionId)
    (event : PresenceEvent) (now : Clock) (ctx : RealtimeContext) (channelId : String) :
    Agree tenantId own ctx (departFrom s event named now ctx channelId) where
  auth := rfl
  router := by
    refine ChannelRouterService.Agree.trans ?_ (.pruneEmpty_other ⟨named, channelId⟩ others _)
    exact .publish_other (ChannelKey.mk named channelId).presenceKey others _ _ _ _
  presence _ _ := rfl

theorem departFrom (agree : Agree tenantId own ctx ctx') (s : SessionId) (event : PresenceEvent)
    (named : TenantId) (now : Clock) (channelId : String) :
    Agree tenantId own (RealtimeContext.departFrom s event named now ctx channelId)
      (RealtimeContext.departFrom s event named now ctx' channelId) :=
  ⟨agree.auth, (agree.router.publish _ _ _ _).pruneEmpty _, agree.presence⟩

theorem foldl_other {β : Type} {f : RealtimeContext → β → RealtimeContext} {items : List β}
    (each : ∀ b ∈ items, ∀ ctx, Agree tenantId own ctx (f ctx b)) (ctx : RealtimeContext) :
    Agree tenantId own ctx (items.foldl f ctx) := by
  induction items generalizing ctx with
  | nil => exact refl tenantId own ctx
  | cons b items ih =>
      have rest := ih fun d member => each d (List.mem_cons_of_mem b member)
      exact (each b List.mem_cons_self ctx).trans (rest (f ctx b))

theorem foldl {β : Type} {f : RealtimeContext → β → RealtimeContext}
    (each : ∀ {ctx ctx'}, Agree tenantId own ctx ctx' → ∀ b, Agree tenantId own (f ctx b) (f ctx' b))
    (agree : Agree tenantId own ctx ctx') (items : List β) :
    Agree tenantId own (items.foldl f ctx) (items.foldl f ctx') := by
  induction items generalizing ctx ctx' with
  | nil => exact agree
  | cons b items ih => exact ih (each agree b)

theorem departAll_other {entry : PresenceEntry} (others : entry.tenantId ≠ tenantId) (s : SessionId)
    (event : PresenceEvent) (now : Clock) (ctx : RealtimeContext) :
    Agree tenantId own ctx (departAll s event now entry ctx) :=
  foldl_other (fun channelId _ ctx => departFrom_other others s event now ctx channelId) ctx

theorem departAll (agree : Agree tenantId own ctx ctx') (s : SessionId) (event : PresenceEvent)
    (now : Clock) (entry : PresenceEntry) :
    Agree tenantId own (RealtimeContext.departAll s event now entry ctx)
      (RealtimeContext.departAll s event now entry ctx') :=
  foldl (fun agree channelId => agree.departFrom s event entry.tenantId now channelId) agree _

theorem handleLeave_other {s : SessionId} (others : own s = false) (ctx : RealtimeContext)
    (foreign : Foreign tenantId own ctx.presence) (now : Clock) :
    Agree tenantId own ctx (ctx.handleLeave s now) := by
  unfold RealtimeContext.handleLeave
  split
  · exact refl tenantId own ctx
  · rename_i entry found
    have removed : Agree tenantId own ctx { ctx with presence := ctx.presence.remove s } :=
      ⟨rfl, .refl tenantId _, PresenceService.agreeOn_remove_other others _⟩
    exact removed.trans (departAll_other (foreign s entry others found) s .leave now _)

theorem handleLeave (agree : Agree tenantId own ctx ctx') {s : SessionId} (mine : own s = true)
    (now : Clock) : Agree tenantId own (ctx.handleLeave s now) (ctx'.handleLeave s now) := by
  unfold RealtimeContext.handleLeave
  rw [agree.presence s mine]
  split
  · exact agree
  · rename_i entry found
    have removed : Agree tenantId own { ctx with presence := ctx.presence.remove s }
        { ctx' with presence := ctx'.presence.remove s } :=
      ⟨agree.auth, agree.router, PresenceService.agreeOn_remove agree.presence s⟩
    exact removed.departAll s .leave now entry

theorem departEach_filter (event : PresenceEvent) (now : Clock) (entries : List PresenceEntry)
    (ctx : RealtimeContext) :
    Agree tenantId own
      (entries.foldl (fun ctx entry => RealtimeContext.departAll entry.sessionId event now entry ctx) ctx)
      ((entries.filter fun entry => entry.tenantId = tenantId).foldl
        (fun ctx entry => RealtimeContext.departAll entry.sessionId event now entry ctx) ctx) := by
  induction entries generalizing ctx with
  | nil => exact refl tenantId own ctx
  | cons entry entries ih =>
      by_cases mine : entry.tenantId = tenantId
      · rw [List.filter_cons_of_pos (by simpa using mine)]
        exact ih _
      · rw [List.filter_cons_of_neg (by simpa using mine), List.foldl_cons]
        have passed : Agree tenantId own _ _ := departAll_other mine entry.sessionId event now ctx
        refine (ih _).trans ?_
        exact foldl (fun agree entry => agree.departAll entry.sessionId event now entry) passed.symm _

theorem lookup_foldl_remove (order : List SessionId) (p : PresenceService) (s : SessionId) :
    AList.lookup s (order.foldl (fun p id => p.remove id) p).sessions =
      if s ∈ order then none else AList.lookup s p.sessions := by
  induction order generalizing p with
  | nil => simp
  | cons id order ih =>
      rw [List.foldl_cons, ih]
      by_cases here : s = id
      · subst here
        simp [PresenceService.remove]
      · simp [PresenceService.remove, here, AList.lookup_erase_ne here]

theorem expired_filter {p : PresenceService} (foreign : Foreign tenantId own p)
    (order : List SessionId) :
    ((order.filterMap fun id => AList.lookup id p.sessions).filter
        fun entry => entry.tenantId = tenantId) =
      (((order.filter own).filterMap fun id => AList.lookup id p.sessions).filter
        fun entry => entry.tenantId = tenantId) := by
  induction order with
  | nil => rfl
  | cons id order ih =>
      cases mine : own id with
      | true =>
          rw [List.filter_cons_of_pos mine]
          cases found : AList.lookup id p.sessions with
          | none => simp only [List.filterMap_cons, found, ih]
          | some entry => simp only [List.filterMap_cons, found, List.filter_cons, ih]
      | false =>
          rw [List.filter_cons_of_neg (by simp [mine]), ← ih]
          cases found : AList.lookup id p.sessions with
          | none => simp only [List.filterMap_cons, found]
          | some entry =>
              simp only [List.filterMap_cons, found]
              rw [List.filter_cons_of_neg (by simpa using foreign id entry mine found)]

theorem sweep (agree : Agree tenantId own ctx ctx') (foreign : Foreign tenantId own ctx.presence)
    (foreign' : Foreign tenantId own ctx'.presence) {order order' : List SessionId} (now : Clock)
    (same : order.filter own = order'.filter own) :
    Agree tenantId own (ctx.sweep order now) (ctx'.sweep order' now) := by
  have entries : ((order.filterMap fun id => AList.lookup id ctx.presence.sessions).filter
        fun entry => entry.tenantId = tenantId) =
      ((order'.filterMap fun id => AList.lookup id ctx'.presence.sessions).filter
        fun entry => entry.tenantId = tenantId) := by
    rw [expired_filter foreign, expired_filter foreign', ← same]
    congr 1
    apply List.filterMap_congr
    intro id member
    exact agree.presence id (List.mem_filter.mp member).2
  have cleared : Agree tenantId own
      { ctx with
        channelRouter := ctx.channelRouter.pruneDeadWildcards
        presence := order.foldl (fun p id => p.remove id) ctx.presence }
      { ctx' with
        channelRouter := ctx'.channelRouter.pruneDeadWildcards
        presence := order'.foldl (fun p id => p.remove id) ctx'.presence } := by
    refine ⟨agree.auth, agree.router.pruneDeadWildcards, fun s mine => ?_⟩
    have members : s ∈ order ↔ s ∈ order' := by
      have filtered : s ∈ order.filter own ↔ s ∈ order'.filter own := by rw [same]
      simpa [mine] using filtered
    show AList.lookup s _ = AList.lookup s _
    rw [lookup_foldl_remove, lookup_foldl_remove]
    simp only [members, agree.presence s mine]
  unfold RealtimeContext.sweep
  refine (departEach_filter .timeout now _ _).trans ?_
  refine Agree.trans ?_ (departEach_filter .timeout now _ _).symm
  rw [entries]
  exact foldl (fun agree entry => agree.departAll entry.sessionId .timeout now entry) cleared _

theorem publishAndFanout_other (key : ChannelKey) (others : key.tenantId ≠ tenantId) (named : TenantId)
    (frame : Frame) (now : Clock) (ctx : RealtimeContext) :
    Agree tenantId own ctx (ctx.publishAndFanout named key frame now) where
  auth := (auth_publishAndFanout _ _ _ _ _).symm
  router := by
    rw [channelRouter_publishAndFanout]
    exact .publish_other key others _ _ _ _
  presence _ _ := by rw [presence_publishAndFanout]

theorem publishAndFanout (agree : Agree tenantId own ctx ctx') (named : TenantId) (key : ChannelKey)
    (frame : Frame) (now : Clock) :
    Agree tenantId own (ctx.publishAndFanout named key frame now)
      (ctx'.publishAndFanout named key frame now) where
  auth := by rw [auth_publishAndFanout, auth_publishAndFanout, agree.auth]
  router := by
    rw [channelRouter_publishAndFanout, channelRouter_publishAndFanout]
    exact agree.router.publish _ _ _ _
  presence s mine := by
    rw [presence_publishAndFanout, presence_publishAndFanout]
    exact agree.presence s mine

theorem leave_other {s : SessionId} (others : own s = false) (foreign : Foreign tenantId own ctx.presence)
    (c : Connection) (now : Clock) : Agree tenantId own ctx (Server.leave s c now ctx) := by
  have closed : Agree tenantId own ctx { ctx with
      rateLimiter := ctx.rateLimiter.dropSession s
      metrics := ctx.metrics.connectionClosed c.transport } := ⟨rfl, .refl tenantId _, fun _ _ => rfl⟩
  unfold Server.leave
  simp only
  split
  · exact closed.trans (handleLeave_other others { ctx with
      rateLimiter := ctx.rateLimiter.dropSession s
      metrics := ctx.metrics.connectionClosed c.transport } foreign now)
  · exact closed

theorem leave (agree : Agree tenantId own ctx ctx') {s : SessionId} (mine : own s = true)
    {c c' : Connection} (tenant : c.authenticatedTenant = c'.authenticatedTenant) (now : Clock) :
    Agree tenantId own (Server.leave s c now ctx) (Server.leave s c' now ctx') := by
  have closed : Agree tenantId own
      { ctx with
        rateLimiter := ctx.rateLimiter.dropSession s
        metrics := ctx.metrics.connectionClosed c.transport }
      { ctx' with
        rateLimiter := ctx'.rateLimiter.dropSession s
        metrics := ctx'.metrics.connectionClosed c'.transport } :=
    ⟨agree.auth, agree.router, agree.presence⟩
  unfold Server.leave
  simp only [tenant]
  split
  · exact closed.handleLeave mine now
  · exact closed

theorem publishBuilt_other {named : TenantId} (others : named ≠ tenantId) (channelId payload : String)
    (now : Clock) (ctx : RealtimeContext) :
    Agree tenantId own ctx (publishBuilt named channelId payload now ctx) := by
  unfold publishBuilt
  simp only
  split
  · exact refl tenantId own ctx
  · rename_i frame _
    have sent : Agree tenantId own ctx _ :=
      publishAndFanout_other ⟨named, channelId⟩ others named frame now ctx
    exact ⟨sent.auth, sent.router, sent.presence⟩

theorem publishBuilt (agree : Agree tenantId own ctx ctx') (named : TenantId)
    (channelId payload : String) (now : Clock) :
    Agree tenantId own (UseCases.publishBuilt named channelId payload now ctx)
      (UseCases.publishBuilt named channelId payload now ctx') := by
  unfold UseCases.publishBuilt
  simp only
  split
  · exact agree
  · rename_i frame _
    have sent := agree.publishAndFanout named ⟨named, channelId⟩ frame now
    exact ⟨sent.auth, sent.router, sent.presence⟩

theorem reinject_other {frame : Frame} (others : frame.tenantId ≠ tenantId) (now : Clock)
    (ctx : RealtimeContext) : Agree tenantId own ctx (Server.reinject frame now ctx) :=
  ⟨rfl, .publish_other (remoteKey frame) others _ _ _ _, fun _ _ => rfl⟩

theorem reinject (agree : Agree tenantId own ctx ctx') (frame : Frame) (now : Clock) :
    Agree tenantId own (Server.reinject frame now ctx) (Server.reinject frame now ctx') :=
  ⟨agree.auth, agree.router.publish _ _ _ _, agree.presence⟩

theorem adminStep (agree : Agree tenantId own ctx ctx') (op : AdminOp) :
    Agree tenantId own (Server.adminStep op ctx) (Server.adminStep op ctx') := by
  have keys : ∀ f : TokenService → TokenService,
      Agree tenantId own { ctx with auth := f ctx.auth } { ctx' with auth := f ctx'.auth } :=
    fun f => ⟨congrArg f agree.auth, agree.router, agree.presence⟩
  cases op with
  | registerTenant named secret => exact keys (TokenService.registerTenant named secret)
  | revokeTenant named => exact keys (TokenService.revokeTenant named)
  | addExtraKey named publicKey secret => exact keys (TokenService.addExtraKey named publicKey secret)
  | revokeExtraKey named publicKey =>
      exact keys fun auth => (TokenService.revokeExtraKey named publicKey auth).2
  | setTenantLimits | clearTenantLimits => exact ⟨agree.auth, agree.router, agree.presence⟩

end Agree
end RealtimeContext

namespace Server

/-- Every session authenticated as the tenant is in `own`. -/
def Owned (tenantId : TenantId) (own : SessionId → Bool) (server : Server) : Prop :=
  ∀ s c, server.connections s = some c → c.authenticatedTenant = some tenantId → own s = true

end Server

/-- The same command, but for the frames of a replay. -/
inductive FrameCommand.Like : FrameCommand → FrameCommand → Prop
  | same (command) : Like command command
  | replayed (frames frames') : Like (.replayed frames) (.replayed frames')

namespace UseCases
open RealtimeContext (Agree)
variable {codec : TokenCodec} {redis redis' : RedisStreams Message} {s : SessionId} {rx : ReceiverId}
  {tenant tenant' : Option TenantId} {frame : Frame} {now : Clock} {ctx ctx' : RealtimeContext}
  {command : FrameCommand} {tenantId : TenantId} {own : SessionId → Bool}

theorem Dispatched.agree_other
    (dispatched : Dispatched codec redis s rx tenant frame now ctx command tenant' ctx')
    (others : own s = false) (before : tenant ≠ some tenantId) (after : tenant' ≠ some tenantId) :
    Agree tenantId own ctx ctx' := by
  have foreign : tenant = some frame.tenantId → frame.tenantId ≠ tenantId := by
    rintro owned same
    exact before (owned.trans (congrArg some same))
  cases dispatched with
  | idle => exact .refl tenantId own ctx
  | rejected => exact .refl tenantId own ctx
  | unsubPattern => exact .refl tenantId own ctx
  | accepted claims opcode valid =>
      have apart : frame.tenantId ≠ tenantId := fun same => after (congrArg some same)
      exact ⟨rfl, .attach_other (inboxKey frame claims.sub) apart _ _,
        PresenceService.agreeOn_register_other others _ _ _ _⟩
  | beat => exact ⟨rfl, .refl tenantId _, PresenceService.agreeOn_adjust_other others _⟩
  | pattern opcode owned =>
      exact ⟨rfl, .subscribeWildcard_other (foreign owned) _ _ _, fun _ _ => rfl⟩
  | exact opcode owned =>
      have apart := foreign owned
      have attached := ChannelRouterService.Agree.attach_other (namedKey frame) apart rx
        ctx.channelRouter
      exact ⟨rfl, attached.trans (.publish_other (namedKey frame).presenceKey apart _ _ _ _),
        PresenceService.agreeOn_adjust_other others _⟩
  | unsubExact opcode owned =>
      exact ⟨rfl, .publish_other (namedKey frame).presenceKey (foreign owned) _ _ _ _,
        PresenceService.agreeOn_adjust_other others _⟩
  | published key named owned =>
      have apart : key.tenantId ≠ tenantId := tenantId_publishKey named ▸ foreign owned
      exact .publishAndFanout_other key apart _ _ _ _
  | replayed frames router opcode owned exact found =>
      have kept := ChannelRouterService.Agree.replay_other (namedKey frame) (foreign owned) redis
        frame.tenantId (sinceSecs frame) ctx.channelRouter
      rw [found] at kept
      exact ⟨rfl, kept, fun _ _ => rfl⟩

structure Alike (tenantId : TenantId) (own : SessionId → Bool)
    (result result' : FrameCommand × Option TenantId × RealtimeContext) : Prop where
  command : FrameCommand.Like result.1 result'.1
  tenant : result.2.1 = result'.2.1
  services : Agree tenantId own result.2.2 result'.2.2

theorem alike_same (agree : Agree tenantId own ctx ctx') (command : FrameCommand)
    (tenant : Option TenantId) : Alike tenantId own (command, tenant, ctx) (command, tenant, ctx') :=
  ⟨.same command, rfl, agree⟩

theorem alike_auth (agree : Agree tenantId own ctx ctx') (opcode : frame.opcode = .auth) :
    Alike tenantId own (executeInner codec redis s rx tenant frame now ctx)
      (executeInner codec redis' s rx tenant frame now ctx') := by
  cases valid : ctx.auth.validate codec now.unixSecs frame.tenantId frame.payload with
  | error err =>
      have valid' := valid
      rw [agree.auth] at valid'
      simp only [executeInner, opcode, authenticateSession, valid, valid']
      exact alike_same agree _ _
  | ok claims =>
      have valid' := valid
      rw [agree.auth] at valid'
      rw [executeInner_auth codec redis s rx tenant frame now ctx opcode valid,
        executeInner_auth codec redis' s rx tenant frame now ctx' opcode valid']
      refine alike_same ?_ _ _
      exact ⟨agree.auth, agree.router.attach _ _,
        PresenceService.agreeOn_register agree.presence _ _ _ _⟩

theorem alike_beat (agree : Agree tenantId own ctx ctx') (opcode : frame.opcode = .ping) :
    Alike tenantId own (executeInner codec redis s rx tenant frame now ctx)
      (executeInner codec redis' s rx tenant frame now ctx') := by
  simp only [executeInner, opcode, heartbeat]
  split
  · refine alike_same ?_ _ _
    exact ⟨agree.auth, agree.router, PresenceService.agreeOn_adjust agree.presence s⟩
  · exact alike_same agree _ _

theorem alike_subscribe (agree : Agree tenantId own ctx ctx') (opcode : frame.opcode = .subscribe) :
    Alike tenantId own (executeInner codec redis s rx (some frame.tenantId) frame now ctx)
      (executeInner codec redis' s rx (some frame.tenantId) frame now ctx') := by
  cases pattern : isPattern frame.channelId with
  | true =>
      have own := ownTenant_self frame
      simp only [executeInner, opcode, subscribeChannel, own, pattern, if_true]
      refine alike_same ?_ _ _
      exact ⟨agree.auth, agree.router.subscribeWildcard _ _ _, agree.presence⟩
  | false =>
      rw [executeInner_exact codec redis s rx frame now ctx opcode pattern,
        executeInner_exact codec redis' s rx frame now ctx' opcode pattern]
      refine alike_same ?_ _ _
      exact ⟨agree.auth, (agree.router.attach _ _).publish _ _ _ _,
        PresenceService.agreeOn_adjust agree.presence s⟩

theorem alike_unsub (agree : Agree tenantId own ctx ctx') (opcode : frame.opcode = .unsub) :
    Alike tenantId own (executeInner codec redis s rx (some frame.tenantId) frame now ctx)
      (executeInner codec redis' s rx (some frame.tenantId) frame now ctx') := by
  cases pattern : isPattern frame.channelId with
  | true =>
      have own := ownTenant_self frame
      simp only [executeInner, opcode, unsubscribeChannel, own, pattern, if_true]
      exact alike_same agree _ _
  | false =>
      rw [executeInner_unsubExact codec redis s rx frame now ctx opcode pattern,
        executeInner_unsubExact codec redis' s rx frame now ctx' opcode pattern]
      refine alike_same ?_ _ _
      exact ⟨agree.auth, agree.router.publish _ _ _ _,
        PresenceService.agreeOn_adjust agree.presence s⟩

theorem alike_published (agree : Agree tenantId own ctx ctx') {key : ChannelKey}
    (named : publishKey frame = some key) :
    Alike tenantId own (executeInner codec redis s rx (some frame.tenantId) frame now ctx)
      (executeInner codec redis' s rx (some frame.tenantId) frame now ctx') := by
  rw [executeInner_published codec redis s rx frame now ctx named,
    executeInner_published codec redis' s rx frame now ctx' named]
  exact alike_same (agree.publishAndFanout _ _ _ _) _ _

theorem replay_own (r : ChannelRouterService Message) (redis : RedisStreams Message) (key : ChannelKey)
    (since : Nat) : ∃ frames, r.replay redis key.tenantId key since =
      (.ok frames, (r.replay redis key.tenantId key since).2) := by
  unfold ChannelRouterService.replay
  rw [if_neg (not_not.mpr rfl)]
  split <;> exact ⟨_, rfl⟩

theorem alike_replay (agree : Agree tenantId own ctx ctx') (opcode : frame.opcode = .replay) :
    Alike tenantId own (executeInner codec redis s rx (some frame.tenantId) frame now ctx)
      (executeInner codec redis' s rx (some frame.tenantId) frame now ctx') := by
  have mine : ownTenant (some frame.tenantId) frame = some frame.tenantId := by simp [ownTenant]
  cases pattern : isPattern frame.channelId with
  | true =>
      simp only [executeInner, opcode, replayHistory, mine, pattern, if_true]
      exact alike_same agree _ _
  | false =>
      obtain ⟨frames, found⟩ := replay_own ctx.channelRouter redis (namedKey frame) (sinceSecs frame)
      obtain ⟨frames', found'⟩ := replay_own ctx'.channelRouter redis' (namedKey frame) (sinceSecs frame)
      simp only [namedKey] at found found'
      simp only [executeInner, opcode, replayHistory, mine, pattern, Bool.false_eq_true, if_false]
      rw [found, found']
      exact ⟨.replayed frames frames', rfl, agree.auth, agree.router.replay _ _ _ _ _, agree.presence⟩

theorem executeInner_alike (codec : TokenCodec) (redis redis' : RedisStreams Message) (s : SessionId)
    (rx : ReceiverId) (tenant : Option TenantId) (frame : Frame) (now : Clock)
    (agree : Agree tenantId own ctx ctx') :
    Alike tenantId own (executeInner codec redis s rx tenant frame now ctx)
      (executeInner codec redis' s rx tenant frame now ctx') := by
  by_cases auth : frame.opcode = .auth
  · exact alike_auth agree auth
  by_cases ping : frame.opcode = .ping
  · exact alike_beat agree ping
  cases mine : ownTenant tenant frame with
  | none =>
      rw [executeInner_foreign codec redis s rx tenant frame now ctx mine auth ping,
        executeInner_foreign codec redis' s rx tenant frame now ctx' mine auth ping]
      exact alike_same agree _ _
  | some named =>
      obtain ⟨rfl, _⟩ := ownTenant_eq_some mine
      cases kind : frame.opcode with
      | auth => exact absurd kind auth
      | ping => exact absurd kind ping
      | subscribe => exact alike_subscribe agree kind
      | unsub => exact alike_unsub agree kind
      | publish =>
          have named : publishKey frame = some (namedKey frame) := by simp only [publishKey, kind]
          exact alike_published agree named
      | unicast =>
          have named : publishKey frame = some (inboxKey frame frame.channelId) := by
            simp only [publishKey, kind]
          exact alike_published agree named
      | replay => exact alike_replay agree kind
      | message =>
          simp only [executeInner, kind]
          exact alike_same agree _ _
      | presence =>
          simp only [executeInner, kind]
          exact alike_same agree _ _

end UseCases
end RealtimePlatform.Backend
