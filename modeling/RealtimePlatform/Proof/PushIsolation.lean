import RealtimePlatform.Backend.PushSubscriptions
import RealtimePlatform.Proof.Handling

namespace RealtimePlatform.Proof.PushIsolation
open Library Backend PushSubscriptionRepository

/-- A request with the token service, the clock and the fate of its statement when it is handled. -/
inductive PushOp where
  | register (auth : TokenService) (nowUnix createdAt : Nat) (written : Bool)
      (dto : RegisterPushSubscriptionDto) (token : String)
  | unregister (auth : TokenService) (nowUnix : Nat) (written : Bool) (tenantId : TenantId)
      (endpoint token : String)
  | revoke (written : Bool) (tenantId : TenantId) (endpoint : String)

namespace PushOp

/-- The tenant that the request is authenticated for. -/
def tenantId : PushOp → TenantId
  | register _ _ _ _ dto _ => dto.tenantId
  | unregister _ _ _ tenantId _ _ => tenantId
  | revoke _ tenantId _ => tenantId

variable (codec : TokenCodec)

def apply (repo : PushSubscriptionRepository) : PushOp → PushSubscriptionRepository
  | register auth nowUnix createdAt written dto token =>
    (registerPushSubscription codec auth nowUnix createdAt written dto token repo).2
  | unregister auth nowUnix written tenantId endpoint token =>
    (unregisterPushSubscription codec auth nowUnix written tenantId endpoint token repo).2
  | revoke written tenantId endpoint => (revokePushSubscription written tenantId endpoint repo).2

/-- An accepted registration names an endpoint under which no other tenant is stored. -/
def Own (repo : PushSubscriptionRepository) : PushOp → Prop
  | register auth nowUnix _ written dto token =>
    (∃ claims, auth.validate codec nowUnix dto.tenantId token = .ok claims) → written = true →
      ∀ row ∈ repo.rows, row.subscription.endpoint = dto.endpoint →
        row.subscription.tenantId = dto.tenantId
  | _ => True

end PushOp

def applyAll (codec : TokenCodec) (ops : List PushOp) : PushSubscriptionRepository :=
  ops.foldl (PushOp.apply codec) new

/-- No request touches a row of another tenant, and what a tenant reads depends on its own requests. -/
structure Isolated (codec : TokenCodec) (ops : List PushOp) : Prop where
  untouched : ∀ tenantId pre op, pre ++ [op] <+: ops → op.tenantId ≠ tenantId →
    (applyAll codec (pre ++ [op])).rowsOf tenantId = (applyAll codec pre).rowsOf tenantId
  rows : ∀ tenantId pre, pre <+: ops → (applyAll codec pre).rowsOf tenantId =
    (applyAll codec (pre.filter (·.tenantId = tenantId))).rowsOf tenantId
  matching : ∀ tenantId channelId pre, pre <+: ops → (applyAll codec pre).findMatching tenantId channelId =
    (applyAll codec (pre.filter (·.tenantId = tenantId))).findMatching tenantId channelId
  listed : ∀ tenantId pre, pre <+: ops → (applyAll codec pre).listForTenant tenantId =
    (applyAll codec (pre.filter (·.tenantId = tenantId))).listForTenant tenantId

section
variable {codec : TokenCodec} {repo own : PushSubscriptionRepository} {op : PushOp} {ops pre : List PushOp}
  {tenantId : TenantId} {sub : PushSubscription} {createdAt : Nat}

theorem applyAll_concat : applyAll codec (pre ++ [op]) = op.apply codec (applyAll codec pre) := by
  rw [applyAll, List.foldl_append]
  rfl

theorem mem_endpoints_iff {endpoint : String} :
    endpoint ∈ repo.endpoints ↔ ∃ row ∈ repo.rows, row.subscription.endpoint = endpoint := List.mem_map

theorem tenantId_rewriteRow (owned : ∀ row ∈ repo.rows, row.subscription.endpoint = sub.endpoint →
    row.subscription.tenantId = sub.tenantId) :
    ∀ row ∈ repo.rows, (rewriteRow sub row).subscription.tenantId = row.subscription.tenantId := by
  intro row member
  unfold rewriteRow
  split
  · rename_i same
    exact (owned row member same).symm
  · rfl

theorem rowsOf_rewrite (owned : ∀ row ∈ repo.rows, row.subscription.endpoint = sub.endpoint →
    row.subscription.tenantId = sub.tenantId) :
    (repo.rows.map (rewriteRow sub)).filter (fun row => row.subscription.tenantId = tenantId) =
      (repo.rowsOf tenantId).map (rewriteRow sub) := by
  rw [List.filter_map]
  refine congrArg (List.map (rewriteRow sub)) (List.filter_congr fun row member => ?_)
  simp only [Function.comp_apply, tenantId_rewriteRow owned row member]

theorem rowsOf_upsert_ne (owned : ∀ row ∈ repo.rows, row.subscription.endpoint = sub.endpoint →
    row.subscription.tenantId = sub.tenantId) (other : sub.tenantId ≠ tenantId) :
    (repo.upsert sub createdAt).rowsOf tenantId = repo.rowsOf tenantId := by
  unfold upsert
  split
  · refine (rowsOf_rewrite owned).trans ?_
    have kept : ∀ row ∈ repo.rowsOf tenantId, rewriteRow sub row = row := by
      intro row member
      obtain ⟨inRows, tenant⟩ := List.mem_filter.mp member
      refine if_neg fun same => other ?_
      rw [← owned row inRows same]
      exact of_decide_eq_true tenant
    exact (List.map_congr_left kept).trans (List.map_id _)
  · simp [rowsOf, other]

theorem rowsOf_upsert (owned : ∀ row ∈ repo.rows, row.subscription.endpoint = sub.endpoint →
    row.subscription.tenantId = sub.tenantId) (same : repo.rowsOf sub.tenantId = own.rows) :
    (repo.upsert sub createdAt).rowsOf sub.tenantId = (own.upsert sub createdAt).rows := by
  have stored : sub.endpoint ∈ repo.endpoints ↔ sub.endpoint ∈ own.endpoints := by
    rw [mem_endpoints_iff, mem_endpoints_iff, ← same]
    constructor
    · rintro ⟨row, member, endpoint⟩
      exact ⟨row, List.mem_filter.mpr ⟨member, decide_eq_true (owned row member endpoint)⟩, endpoint⟩
    · rintro ⟨row, member, endpoint⟩
      exact ⟨row, (List.mem_filter.mp member).1, endpoint⟩
  unfold upsert
  by_cases present : sub.endpoint ∈ repo.endpoints
  · rw [dif_pos present, dif_pos (stored.mp present)]
    exact (rowsOf_rewrite owned).trans (congrArg _ same)
  · rw [dif_neg present, dif_neg (stored.not.mp present)]
    simp [rowsOf, ← same]

theorem rowsOf_delete {endpoint : String} {deleter : TenantId} :
    (repo.delete deleter endpoint).rowsOf tenantId = (repo.rowsOf tenantId).filter fun row =>
      !(row.subscription.endpoint = endpoint && row.subscription.tenantId = deleter) := by
  rw [rowsOf, delete, rowsOf, List.filter_filter, List.filter_filter]
  exact List.filter_congr fun row _ => Bool.and_comm _ _

theorem rowsOf_delete_ne {endpoint : String} {deleter : TenantId} (other : deleter ≠ tenantId) :
    (repo.delete deleter endpoint).rowsOf tenantId = repo.rowsOf tenantId := by
  rw [rowsOf_delete, List.filter_eq_self]
  intro row member
  have tenant : row.subscription.tenantId = tenantId := of_decide_eq_true (List.mem_filter.mp member).2
  simp [tenant, Ne.symm other]

def Unclaimed (sub : PushSubscription) (repo : PushSubscriptionRepository) : Prop :=
  ∀ row ∈ repo.rows, row.subscription.endpoint = sub.endpoint → row.subscription.tenantId = sub.tenantId

theorem apply_cases (codec : TokenCodec) (op : PushOp) :
    (∀ repo, op.apply codec repo = repo ∧ op.Own codec repo) ∨
    (∃ sub createdAt, sub.tenantId = op.tenantId ∧
      ∀ repo, op.apply codec repo = repo.upsert sub createdAt ∧ (op.Own codec repo ↔ Unclaimed sub repo)) ∨
    (∃ endpoint, ∀ repo, op.apply codec repo = repo.delete op.tenantId endpoint ∧ op.Own codec repo) := by
  cases op with
  | register auth nowUnix createdAt written dto token =>
      cases valid : auth.validate codec nowUnix dto.tenantId token with
      | error err =>
          refine Or.inl fun repo => ⟨?_, ?_⟩
          · simp only [PushOp.apply, registerPushSubscription, valid]
          · rintro ⟨claims, accepted⟩
            rw [valid] at accepted
            cases accepted
      | ok claims =>
          cases written with
          | false =>
              refine Or.inl fun repo => ⟨?_, ?_⟩
              · simp only [PushOp.apply, registerPushSubscription, valid, Bool.false_eq_true, if_false]
              · rintro _ ⟨⟩
          | true =>
              refine Or.inr (Or.inl ⟨⟨dto.endpoint, dto.tenantId, claims.sub, dto.p256dh, dto.auth,
                dto.channels, dto.deviceLabel⟩, createdAt, rfl, fun repo => ⟨?_, ?_⟩⟩)
              · simp only [PushOp.apply, registerPushSubscription, valid, if_true]
              · exact ⟨fun own => own ⟨claims, valid⟩ rfl, fun unclaimed _ _ => unclaimed⟩
  | unregister auth nowUnix written tenantId endpoint token =>
      cases valid : auth.validate codec nowUnix tenantId token with
      | error err =>
          refine Or.inl fun repo => ⟨?_, trivial⟩
          simp only [PushOp.apply, unregisterPushSubscription, valid]
      | ok claims =>
          cases written with
          | false =>
              refine Or.inl fun repo => ⟨?_, trivial⟩
              simp only [PushOp.apply, unregisterPushSubscription, valid, Bool.false_eq_true, if_false]
          | true =>
              refine Or.inr (Or.inr ⟨endpoint, fun repo => ⟨?_, trivial⟩⟩)
              simp only [PushOp.apply, unregisterPushSubscription, valid, if_true, PushOp.tenantId]
  | revoke written tenantId endpoint =>
      cases written with
      | false => exact Or.inl fun repo => ⟨rfl, trivial⟩
      | true => exact Or.inr (Or.inr ⟨endpoint, fun repo => ⟨rfl, trivial⟩⟩)

theorem rowsOf_apply_ne (ownRow : op.Own codec repo) (other : op.tenantId ≠ tenantId) :
    (op.apply codec repo).rowsOf tenantId = repo.rowsOf tenantId := by
  rcases apply_cases codec op with idle | ⟨sub, createdAt, tenant, applied⟩ | ⟨endpoint, applied⟩
  · rw [(idle repo).1]
  · rw [(applied repo).1]
    exact rowsOf_upsert_ne ((applied repo).2.mp ownRow) (tenant ▸ other)
  · rw [(applied repo).1]
    exact rowsOf_delete_ne other

theorem rowsOf_apply (ownRow : op.Own codec repo) (same : repo.rowsOf op.tenantId = own.rows) :
    (op.apply codec repo).rowsOf op.tenantId = (op.apply codec own).rows := by
  rcases apply_cases codec op with idle | ⟨sub, createdAt, tenant, applied⟩ | ⟨endpoint, applied⟩
  · rw [(idle repo).1, (idle own).1, same]
  · rw [(applied repo).1, (applied own).1]
    rw [← tenant] at same ⊢
    exact rowsOf_upsert ((applied repo).2.mp ownRow) same
  · rw [(applied repo).1, (applied own).1, rowsOf_delete, same]
    rfl

theorem rowsOf_own (all : ∀ op ∈ ops, op.tenantId = tenantId) :
    (applyAll codec ops).rowsOf tenantId = (applyAll codec ops).rows := by
  induction ops using List.reverseRecOn with
  | nil => rfl
  | append_singleton ops op ih =>
      have last : op.tenantId = tenantId := all op (by simp)
      have before := ih fun op member => all op (List.mem_append_left _ member)
      have tenants : ∀ row ∈ (applyAll codec ops).rows, row.subscription.tenantId = tenantId := by
        intro row member
        rw [← before] at member
        exact of_decide_eq_true (List.mem_filter.mp member).2
      rw [applyAll_concat, rowsOf, List.filter_eq_self]
      intro row member
      refine decide_eq_true ?_
      rcases apply_cases codec op with idle | ⟨sub, createdAt, tenant, applied⟩ | ⟨endpoint, applied⟩
      · rw [(idle _).1] at member
        exact tenants row member
      · rw [(applied _).1, upsert] at member
        split at member
        · obtain ⟨old, inOld, rfl⟩ := List.mem_map.mp member
          unfold rewriteRow
          split
          · exact tenant.trans last
          · exact tenants old inOld
        · rcases List.mem_append.mp member with old | new
          · exact tenants row old
          · rw [List.mem_singleton.mp new]
            exact tenant.trans last
      · rw [(applied _).1] at member
        exact tenants row (List.mem_filter.mp member).1

theorem filter_concat (tenantId : TenantId) (pre : List PushOp) (op : PushOp) :
    (pre ++ [op]).filter (·.tenantId = tenantId) =
      pre.filter (·.tenantId = tenantId) ++ if op.tenantId = tenantId then [op] else [] := by
  by_cases same : op.tenantId = tenantId <;> simp [same]

theorem rowsOf_applyAll (ownRows : ∀ pre op, pre ++ [op] <+: ops → op.Own codec (applyAll codec pre))
    (short : pre <+: ops) : (applyAll codec pre).rowsOf tenantId =
      (applyAll codec (pre.filter (·.tenantId = tenantId))).rowsOf tenantId := by
  induction pre using List.reverseRecOn with
  | nil => rfl
  | append_singleton pre op ih =>
      have before := ih ((List.prefix_append pre [op]).trans short)
      have alone : ∀ op ∈ pre.filter (·.tenantId = tenantId), op.tenantId = tenantId :=
        fun op member => of_decide_eq_true (List.mem_filter.mp member).2
      rw [filter_concat]
      by_cases same : op.tenantId = tenantId
      · subst same
        have grown : ∀ d ∈ pre.filter (·.tenantId = op.tenantId) ++ [op], d.tenantId = op.tenantId := by
          intro d member
          rcases List.mem_append.mp member with old | last
          · exact alone d old
          · rw [List.mem_singleton.mp last]
        rw [if_pos rfl, rowsOf_own grown, applyAll_concat, applyAll_concat]
        exact rowsOf_apply (ownRows pre op short) (before.trans (rowsOf_own alone))
      · rw [if_neg same, List.append_nil, applyAll_concat, rowsOf_apply_ne (ownRows pre op short) same, before]

theorem rowsOf_apply_ne_of_not_own (taken : ¬ op.Own codec repo) :
    ∃ tenantId, op.tenantId ≠ tenantId ∧ (op.apply codec repo).rowsOf tenantId ≠ repo.rowsOf tenantId := by
  rcases apply_cases codec op with idle | ⟨sub, createdAt, tenant, applied⟩ | ⟨endpoint, applied⟩
  · exact absurd (idle repo).2 taken
  · rw [(applied repo).2, Unclaimed] at taken
    push Not at taken
    obtain ⟨row, member, sameEndpoint, other⟩ := taken
    refine ⟨row.subscription.tenantId, fun same => other (same ▸ tenant.symm), fun unchanged => ?_⟩
    have kept : row ∈ (op.apply codec repo).rowsOf row.subscription.tenantId := by
      rw [unchanged]
      exact List.mem_filter.mpr ⟨member, decide_eq_true rfl⟩
    have stored : sub.endpoint ∈ repo.endpoints := mem_endpoints_iff.mpr ⟨row, member, sameEndpoint⟩
    rw [(applied repo).1, upsert, dif_pos stored] at kept
    obtain ⟨old, _, rewritten⟩ := List.mem_map.mp (List.mem_filter.mp kept).1
    have endpoint : old.subscription.endpoint = sub.endpoint := by
      rw [← sameEndpoint, ← rewritten, endpoint_rewriteRow]
    rw [rewriteRow, if_pos endpoint] at rewritten
    exact other (congrArg (·.subscription.tenantId) rewritten).symm
  · exact absurd (applied repo).2 taken

/-- The tenants are isolated exactly when no accepted registration names another tenant's endpoint. -/
theorem isolated_iff (codec : TokenCodec) (ops : List PushOp) :
    Isolated codec ops ↔ ∀ pre op, pre ++ [op] <+: ops → op.Own codec (applyAll codec pre) := by
  constructor
  · intro isolated pre op short
    by_contra taken
    obtain ⟨tenantId, other, changed⟩ := rowsOf_apply_ne_of_not_own taken
    rw [← applyAll_concat] at changed
    exact changed (isolated.untouched tenantId pre op short other)
  · intro ownRows
    have rows : ∀ tenantId pre, pre <+: ops → (applyAll codec pre).rowsOf tenantId =
        (applyAll codec (pre.filter (·.tenantId = tenantId))).rowsOf tenantId :=
      fun _ _ short => rowsOf_applyAll ownRows short
    refine ⟨?_, rows, ?_, ?_⟩
    · intro tenantId pre op short other
      rw [applyAll_concat, rowsOf_apply_ne (ownRows pre op short) other]
    · intro tenantId channelId pre short
      rw [findMatching, rows tenantId pre short, findMatching]
    · intro tenantId pre short
      rw [listForTenant, rows tenantId pre short, listForTenant]

end

open SampleToken Sample

def mallory : SampleToken where
  claims := ⟨tenantTwo, "m", 9⟩
  payload := [
    123, 34, 116, 101, 110, 97, 110, 116, 95, 105, 100, 34, 58, 34, 48, 48, 48, 48, 48, 48, 48, 48,
    45, 48, 48, 48, 48, 45, 48, 48, 48, 48, 45, 48, 48, 48, 48, 45, 48, 48, 48, 48, 48, 48, 48, 48,
    48, 48, 48, 50, 34, 44, 34, 115, 117, 98, 34, 58, 34, 109, 34, 44, 34, 101, 120, 112, 34, 58, 57,
    125]
  payloadB64 := [
    'e', 'y', 'J', '0', 'Z', 'W', '5', 'h', 'b', 'n', 'R', 'f', 'a', 'W', 'Q', 'i', 'O', 'i', 'I',
    'w', 'M', 'D', 'A', 'w', 'M', 'D', 'A', 'w', 'M', 'C', '0', 'w', 'M', 'D', 'A', 'w', 'L', 'T',
    'A', 'w', 'M', 'D', 'A', 't', 'M', 'D', 'A', 'w', 'M', 'C', '0', 'w', 'M', 'D', 'A', 'w', 'M',
    'D', 'A', 'w', 'M', 'D', 'A', 'w', 'M', 'D', 'I', 'i', 'L', 'C', 'J', 'z', 'd', 'W', 'I', 'i',
    'O', 'i', 'J', 't', 'I', 'i', 'w', 'i', 'Z', 'X', 'h', 'w', 'I', 'j', 'o', '5', 'f', 'Q']
  sigB64 := [
    'C', 'P', 'P', 'a', 'l', 'j', 'G', 'o', 'm', '4', '2', 'v', '5', 'n', 'u', 'S', 'v', '_', 'X',
    'A', 'M', 'd', 'f', 'X', 'd', '_', 'w', 'b', 'n', 'N', '8', 't', 's', 'A', 'h', '9', 'f', 'q',
    'P', 'e', 'm', 'm', 'Y']
  sig := [
    8, 243, 218, 150, 49, 168, 155, 141, 175, 230, 123, 146, 191, 245, 192, 49, 215, 215, 119, 252,
    27, 156, 223, 45, 176, 8, 125, 126, 163, 222, 154, 102]

def twoTokens : TokenCodec where
  decode text := if text.toList = mallory.payloadB64 then some mallory.payload
    else if text.toList = mallory.sigB64 then some mallory.sig
    else codec.decode text
  fromSlice bytes := if bytes = mallory.payload then some mallory.claims else codec.fromSlice bytes
  mac key message :=
    if key = secret ∧ mallory.payloadB64.flatMap String.utf8EncodeChar = message then mallory.sig
    else codec.mac key message

theorem signed_twoTokens (t : SampleToken) (member : t ∈ [alice, mallory]) :
    TokenService.SignedUnder twoTokens t.text t.claims secret := by
  have absent : '.' ∉ t.payloadB64 := by
    revert t
    decide
  have decoded : twoTokens.decode (String.ofList t.payloadB64) = some t.payload := by
    simp only [twoTokens, codec, String.toList_ofList]
    revert t
    decide +kernel
  have parsed : twoTokens.fromSlice t.payload = some t.claims := by
    revert t
    decide +kernel
  have signature : twoTokens.decode (String.ofList t.sigB64) =
      some (twoTokens.mac secret (utf8 (String.ofList t.payloadB64))) := by
    simp only [twoTokens, codec, String.toList_ofList, utf8_ofList]
    revert t
    decide +kernel
  exact ⟨_, _, _, splitOnce_ofList t.sigB64 absent, decoded, parsed, signature⟩

def twoTenants : TokenService :=
  (TokenService.new.registerTenant tenantOne secret).registerTenant tenantTwo secret

def registration (t : SampleToken) : PushOp :=
  .register twoTenants 0 0 true ⟨t.claims.tenantId, "https://push", "p256dh", "auth", ["room"], none⟩ t.text

def subscriptionOf (t : SampleToken) : PushSubscription :=
  ⟨"https://push", t.claims.tenantId, t.claims.sub, "p256dh", "auth", ["room"], none⟩

theorem apply_registration {repo : PushSubscriptionRepository} (t : SampleToken) (member : t ∈ [alice, mallory]) :
    (registration t).apply twoTokens repo = repo.upsert (subscriptionOf t) 0 := by
  have active : secret ∈ twoTenants.activeSecrets t.claims.tenantId := by
    revert t
    decide
  have fresh : 0 ≤ t.claims.exp := Nat.zero_le _
  have valid := TokenService.validate_of_signed (signed_twoTokens t member) active fresh
  simp only [PushOp.apply, registration, registerPushSubscription, valid, if_true]
  rfl

theorem endpoint_taken_over : ¬ ∀ codec ops, Isolated codec ops := by
  intro isolated
  have first := @apply_registration new alice (by simp)
  have second := @apply_registration (new.upsert (subscriptionOf alice) 0) mallory (by simp)
  have kept := (isolated twoTokens [registration alice, registration mallory]).untouched tenantOne
    [registration alice] (registration mallory) (List.prefix_refl _) (by decide +kernel)
  rw [applyAll_concat] at kept
  simp only [applyAll, List.foldl_cons, List.foldl_nil, first, second] at kept
  revert kept
  decide +kernel

end RealtimePlatform.Proof.PushIsolation
