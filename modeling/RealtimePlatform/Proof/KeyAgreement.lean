import RealtimePlatform.Backend.PortalRequests

namespace RealtimePlatform.Proof.KeyAgreement
open Library Backend PortalServer

/-- The columns that the schema declares PRIMARY KEY or UNIQUE. -/
structure Unique (db : PortalDb) : Prop where
  ids : (db.apiKeys.map (·.id)).Nodup
  publicKeys : (db.apiKeys.map (·.publicKey)).Nodup

def extras (tenantId : TenantId) (stores : PortalStores) : List StoredKey :=
  (stores.plane.tokenService.keys tenantId).getD []

def storedKey (row : ApiKey) : StoredKey := ⟨row.publicKey, utf8 row.secret⟩

structure Agrees (tenantId : TenantId) (stores : PortalStores) : Prop where
  primary : stores.plane.tokenService.secrets tenantId =
    (AList.lookup tenantId stores.plane.db.tenantSecrets).map utf8
  extra : ∀ key, key ∈ extras tenantId stores ↔ ∃ row ∈ stores.plane.db.apiKeys,
    row.isActive = true ∧ row.tenantId = tenantId ∧ storedKey row = key

/-- The secret that a step registers for the tenant, and the one that it stores. -/
def registered (tenantId : TenantId) (server : PortalServer) : PortalEvent → Option String
  | .run request true => match server.stages request with
    | some (.registerTenant tenant secret _) => if tenant = tenantId then some secret else none
    | _ => none
  | _ => none

def stored (tenantId : TenantId) (server : PortalServer) : PortalEvent → Option String
  | .run request true => match server.stages request with
    | some (.upsertSecret tenant secret _) => if tenant = tenantId then some secret else none
    | _ => none
  | _ => none

def Overtakes (tenantId : TenantId) (publicKey : String) (server : PortalServer) : PortalEvent → Prop
  | .run request _ => server.stages request = some (.revokeExtraKey tenantId publicKey) ∧
    ∃ key : ApiKey, key.tenantId = tenantId ∧ key.publicKey = publicKey ∧ At (.addExtraKey key) server
  | _ => False

/-- The rotation that registers last stores last, and no key is removed before it is added. -/
structure InOrder (tenantId : TenantId) (start : PortalServer) (es : List PortalEvent) : Prop where
  rotations : (step.observed (registered tenantId) start es).getLast? =
    (step.observed (stored tenantId) start es).getLast?
  extra : ∀ publicKey, ¬ step.Happened (Overtakes tenantId publicKey) start es

section
variable {tenantId : TenantId} {start server server' : PortalServer} {es : List PortalEvent} {e : PortalEvent}

theorem secrets_step (taken : step server e = some server') :
    server'.stores.plane.tokenService.secrets tenantId =
      ((registered tenantId server e).map utf8).or (server.stores.plane.tokenService.secrets tenantId) := by
  rcases step_cases taken with ⟨request, asked, rfl, free, rfl⟩ |
    ⟨request, succeeds, stage, stage', stores', rfl, here, moved, rfl⟩
  · rfl
  · by_cases registers : ∃ tenant secret signup, stage = .registerTenant tenant secret signup
    · obtain ⟨tenant, secret, signup, rfl⟩ := registers
      cases succeeds with
      | false => cases moved
      | true =>
          cases moved
          by_cases same : tenant = tenantId
          · subst same
            simp [registered, here, PortalStores.registerTenant, KeyPlane.registerTenant,
              TokenService.registerTenant]
          · simp [registered, here, same, PortalStores.registerTenant, KeyPlane.registerTenant,
              TokenService.registerTenant, Function.update_of_ne (Ne.symm same)]
    · push Not at registers
      have silent : registered tenantId server (.run request succeeds) = none := by
        cases succeeds <;> cases stage <;> simp_all [registered]
      rw [silent, stores_settle, secrets_advances (advances_of_advance moved) registers]
      rfl

theorem lookup_step (taken : step server e = some server') :
    AList.lookup tenantId server'.stores.plane.db.tenantSecrets =
      (stored tenantId server e).or (AList.lookup tenantId server.stores.plane.db.tenantSecrets) := by
  rcases step_cases taken with ⟨request, asked, rfl, free, rfl⟩ |
    ⟨request, succeeds, stage, stage', stores', rfl, here, moved, rfl⟩
  · rfl
  · by_cases stores : ∃ tenant secret signup, stage = .upsertSecret tenant secret signup
    · obtain ⟨tenant, secret, signup, rfl⟩ := stores
      cases succeeds with
      | false =>
          cases moved
          rfl
      | true =>
          cases moved
          by_cases same : tenant = tenantId
          · subst same
            simp [stored, here, PortalStores.upsertSecret, PortalDb.upsert]
          · simp [stored, here, same, PortalStores.upsertSecret, PortalDb.upsert,
              AList.lookup_insert_ne (Ne.symm same)]
    · push Not at stores
      have silent : stored tenantId server (.run request succeeds) = none := by
        cases succeeds <;> cases stage <;> simp_all [stored]
      rw [silent, stores_settle, tenantSecrets_advances (advances_of_advance moved) stores]
      rfl

structure Tracked (tenantId : TenantId) (start : PortalServer) (es : List PortalEvent)
    (server : PortalServer) : Prop where
  memory : server.stores.plane.tokenService.secrets tenantId =
    ((step.observed (registered tenantId) start es).getLast?.map utf8).or
      (start.stores.plane.tokenService.secrets tenantId)
  database : AList.lookup tenantId server.stores.plane.db.tenantSecrets =
    (step.observed (stored tenantId) start es).getLast?.or
      (AList.lookup tenantId start.stores.plane.db.tenantSecrets)
  between : ∀ secret signup, At (.upsertSecret tenantId secret signup) server →
    step.observed (registered tenantId) start es ≠ []
  after : step.observed (stored tenantId) start es ≠ [] → step.observed (registered tenantId) start es ≠ []
  completed : step.observed (registered tenantId) start es ≠ [] →
    step.observed (stored tenantId) start es ≠ [] ∨
      (∃ secret signup, At (.upsertSecret tenantId secret signup) server) ∨
      ∃ err, At (.finished (.error err)) server

theorem at_of_registered {secret : String} (taken : step server e = some server')
    (register : registered tenantId server e = some secret) :
    ∃ signup, At (.upsertSecret tenantId secret signup) server' := by
  rcases step_cases taken with ⟨request, asked, rfl, free, rfl⟩ |
    ⟨request, succeeds, stage, stage', stores', rfl, here, moved, rfl⟩
  · cases register
  · cases succeeds with
    | false => cases register
    | true =>
        cases stage <;> simp only [registered, here, reduceCtorEq] at register
        rename_i tenant other signup
        split at register
        · rename_i same
          obtain rfl := same
          obtain rfl := Option.some.inj register
          cases moved
          exact ⟨signup, at_settled⟩
        · cases register

theorem at_of_stored {secret : String} (store : stored tenantId server e = some secret) :
    ∃ signup, At (.upsertSecret tenantId secret signup) server := by
  cases e with
  | start request asked => cases store
  | run request succeeds =>
      cases succeeds with
      | false => cases store
      | true =>
          simp only [stored] at store
          split at store
          · rename_i tenant other signup here
            split at store
            · rename_i same
              obtain rfl := same
              obtain rfl := Option.some.inj store
              exact ⟨signup, request, here⟩
            · cases store
          · cases store

theorem registered_of_at {secret : String} {signup : Option Signup} (taken : step server e = some server')
    (there : At (.upsertSecret tenantId secret signup) server') :
    At (.upsertSecret tenantId secret signup) server ∨ registered tenantId server e = some secret := by
  rcases step_cases taken with ⟨request, asked, rfl, free, rfl⟩ |
    ⟨request, succeeds, stage, stage', stores', rfl, here, moved, rfl⟩
  · rcases at_settle there with now | before
    · cases asked with
      | generateApiKey id tenant name publicKey generated =>
          simp only [PortalRequest.begin] at now
          split at now <;> cases now
      | _ => cases now
    · exact Or.inl before
  · rcases at_settle there with now | before
    · cases succeeds with
      | false => cases stage <;> cases moved <;> cases now
      | true =>
          have advanced := advances_of_advance moved
          cases advanced with
          | registered =>
              cases now
              simp [registered, here]
          | stored tenant other registers => cases registers <;> cases now
          | _ => cases now
    · exact Or.inl before

theorem stored_of_at {secret : String} {signup : Option Signup} (taken : step server e = some server')
    (there : At (.upsertSecret tenantId secret signup) server) :
    At (.upsertSecret tenantId secret signup) server' ∨ stored tenantId server e = some secret ∨
      ∃ err, At (.finished (.error err)) server' := by
  rcases step_cases taken with ⟨request, asked, rfl, free, rfl⟩ |
    ⟨request, succeeds, stage, stage', stores', rfl, here, moved, rfl⟩
  · exact Or.inl (at_of_ne (by simp [free]) there)
  · by_cases same : stage = .upsertSecret tenantId secret signup
    · subst same
      cases succeeds with
      | true => exact Or.inr (Or.inl (by simp [stored, here]))
      | false =>
          cases moved
          exact Or.inr (Or.inr ⟨_, at_settled⟩)
    · refine Or.inl (at_of_ne ?_ there)
      rw [here]
      exact fun equal => same (Option.some.inj equal)

theorem observed_concat {ω : Type} (observe : PortalServer → PortalEvent → Option ω)
    (reached : step.run start es = some server) (taken : step server e = some server') :
    step.observed observe start (es ++ [e]) = step.observed observe start es ++ (observe server e).toList := by
  rw [Step.observed_append observe reached]
  simp [Step.observed, taken]

theorem tracked_of_run (idle : ∀ request, start.stages request = none)
    (reached : step.run start es = some server) : Tracked tenantId start es server := by
  refine Step.run_induction (Tracked tenantId start) ?_ ?_ reached
  · refine ⟨rfl, rfl, ?_, id, fun nonempty => absurd rfl nonempty⟩
    rintro secret signup ⟨request, there⟩
    rw [idle] at there
    cases there
  · intro es server e server' before tracked taken
    have registers := observed_concat (registered tenantId) before taken
    have stores := observed_concat (stored tenantId) before taken
    constructor
    · rw [secrets_step taken, tracked.memory, registers, List.getLast?_append]
      cases registered tenantId server e <;> simp
    · rw [lookup_step taken, tracked.database, stores, List.getLast?_append]
      cases stored tenantId server e <;> simp
    · intro secret signup there
      rw [registers]
      rcases registered_of_at taken there with earlier | now
      · exact List.append_ne_nil_of_left_ne_nil (tracked.between secret signup earlier) _
      · simp [now]
    · intro nonempty
      rw [registers]
      apply List.append_ne_nil_of_left_ne_nil
      cases now : stored tenantId server e with
      | some secret =>
          obtain ⟨signup, there⟩ := at_of_stored now
          exact tracked.between secret signup there
      | none =>
          rw [stores, now] at nonempty
          exact tracked.after (by simpa using nonempty)
    · intro nonempty
      rw [stores]
      cases now : registered tenantId server e with
      | some secret =>
          obtain ⟨signup, there⟩ := at_of_registered taken now
          exact Or.inr (Or.inl ⟨secret, signup, there⟩)
      | none =>
          rw [registers, now] at nonempty
          rcases tracked.completed (by simpa using nonempty) with done | ⟨secret, signup, there⟩ | ⟨err, there⟩
          · exact Or.inl (List.append_ne_nil_of_left_ne_nil done _)
          · rcases stored_of_at taken there with still | stored | failed
            · exact Or.inr (Or.inl ⟨secret, signup, still⟩)
            · exact Or.inl (by simp [stored])
            · exact Or.inr (Or.inr failed)
          · exact Or.inr (Or.inr ⟨err, at_finished taken there⟩)

theorem primary_iff (idle : ∀ request, start.stages request = none)
    (agreed : start.stores.plane.tokenService.secrets tenantId =
      (AList.lookup tenantId start.stores.plane.db.tenantSecrets).map utf8)
    (reached : step.run start es = some server)
    (completed : ∀ request stage, server.stages request = some stage → stage = .finished (.ok ())) :
    server.stores.plane.tokenService.secrets tenantId =
        (AList.lookup tenantId server.stores.plane.db.tenantSecrets).map utf8 ↔
      (step.observed (registered tenantId) start es).getLast? =
        (step.observed (stored tenantId) start es).getLast? := by
  have tracked : Tracked tenantId start es server := tracked_of_run idle reached
  have quiet : ∀ stage, At stage server → stage = .finished (.ok ()) :=
    fun stage there => completed there.choose stage there.choose_spec
  rw [tracked.memory, tracked.database, agreed]
  cases last : (step.observed (registered tenantId) start es).getLast? with
  | none =>
      have none := List.getLast?_eq_none_iff.mp last
      have stores : step.observed (stored tenantId) start es = [] := by
        by_contra some
        exact tracked.after some none
      simp [stores]
  | some secret =>
      have some : step.observed (registered tenantId) start es ≠ [] := by
        intro none
        rw [none] at last
        cases last
      rcases tracked.completed some with stores | ⟨other, signup, there⟩ | ⟨err, there⟩
      · obtain ⟨newest, lastStored⟩ := Option.ne_none_iff_exists'.mp (mt List.getLast?_eq_none_iff.mp stores)
        rw [lastStored]
        simp [utf8_injective.eq_iff]
      · cases quiet _ there
      · cases quiet _ there

end

section
variable {start server server' : PortalServer} {es : List PortalEvent} {e : PortalEvent}

structure Marking (f : ApiKey → ApiKey) : Prop where
  same : ∀ row, { f row with isActive := true } = { row with isActive := true }
  falls : ∀ row, (f row).isActive = true → row.isActive = true

namespace Marking
variable {f : ApiKey → ApiKey} (marking : Marking f) (row : ApiKey)
include marking

theorem id : (f row).id = row.id := congrArg (·.id) (marking.same row)
theorem tenantId : (f row).tenantId = row.tenantId := congrArg (·.tenantId) (marking.same row)
theorem publicKey : (f row).publicKey = row.publicKey := congrArg (·.publicKey) (marking.same row)
theorem secret : (f row).secret = row.secret := congrArg (·.secret) (marking.same row)

theorem storedKey : storedKey (f row) = storedKey row := by
  unfold KeyAgreement.storedKey
  rw [marking.publicKey, marking.secret]

end Marking

theorem marking_id : Marking id := ⟨fun _ => rfl, fun _ => id⟩

def mark (tenantId : TenantId) (keyId : Uuid) (row : ApiKey) : ApiKey :=
  if PortalDb.isTarget tenantId keyId row then { row with isActive := false } else row

theorem marking_mark (tenantId : TenantId) (keyId : Uuid) : Marking (mark tenantId keyId) := by
  constructor
  · intro row
    unfold mark
    split <;> rfl
  · intro row active
    unfold mark at active
    split at active
    · cases active
    · exact active

def generated (row : ApiKey) : ApiKey := { row with isActive := true }

theorem Unique.eq_of_publicKey {db : PortalDb} (unique : Unique db) {row other : ApiKey}
    (stored : row ∈ db.apiKeys) (stored' : other ∈ db.apiKeys) (same : row.publicKey = other.publicKey) :
    row = other :=
  List.inj_on_of_nodup_map unique.publicKeys stored stored' same

theorem Unique.eq_of_id {db : PortalDb} (unique : Unique db) {row other : ApiKey}
    (stored : row ∈ db.apiKeys) (stored' : other ∈ db.apiKeys) (same : row.id = other.id) : row = other :=
  List.inj_on_of_nodup_map unique.ids stored stored' same

structure Sound (server : PortalServer) : Prop where
  unique : Unique server.stores.plane.db
  creates : ∀ key, At (.createKey key) server → key.isActive = true
  adds : ∀ key, At (.addExtraKey key) server → ∃ row ∈ server.stores.plane.db.apiKeys, key = generated row
  addsOnce : ∀ request other key, server.stages request = some (.addExtraKey key) →
    server.stages other = some (.addExtraKey key) → request = other
  marks : ∀ tenantId keyId publicKey, At (.revokeKey tenantId keyId publicKey) server →
    ∃ row ∈ server.stores.plane.db.apiKeys,
      row.id = keyId ∧ row.tenantId = tenantId ∧ row.publicKey = publicKey
  removes : ∀ tenantId publicKey, At (.revokeExtraKey tenantId publicKey) server →
    ∃ row ∈ server.stores.plane.db.apiKeys,
      row.tenantId = tenantId ∧ row.publicKey = publicKey ∧ row.isActive = false
  removesOnce : ∀ request other tenantId publicKey,
    server.stages request = some (.revokeExtraKey tenantId publicKey) →
    server.stages other = some (.revokeExtraKey tenantId publicKey) → request = other

def Enters (rows : List ApiKey) (server : PortalServer) : Stage → Prop
  | .createKey key => key.isActive = true
  | .addExtraKey key => (∃ row ∈ rows, key = generated row) ∧ ¬ At (.addExtraKey key) server
  | .revokeKey tenantId keyId publicKey =>
    ∃ row ∈ rows, row.id = keyId ∧ row.tenantId = tenantId ∧ row.publicKey = publicKey
  | .revokeExtraKey tenantId publicKey =>
    (∃ row ∈ rows, row.tenantId = tenantId ∧ row.publicKey = publicKey ∧ row.isActive = false) ∧
      ¬ At (.revokeExtraKey tenantId publicKey) server
  | _ => True

theorem once_settle {request first second : Nat} {stage other : Stage} {stores : PortalStores}
    (once : ∀ request asked, server.stages request = some other → server.stages asked = some other →
      request = asked) (entered : stage = other → ¬ At other server)
    (one : (server.settle request stage stores).stages first = some other)
    (two : (server.settle request stage stores).stages second = some other) : first = second := by
  rw [stages_settle] at one two
  split at one <;> split at two
  · rename_i same same'
    exact same.trans same'.symm
  · exact absurd ⟨second, two⟩ (entered (Option.some.inj one))
  · exact absurd ⟨first, one⟩ (entered (Option.some.inj two))
  · exact once first second one two

theorem Sound.settle {request : Nat} {stage : Stage} {stores : PortalStores} {f : ApiKey → ApiKey}
    {new : List ApiKey} (sound : Sound server) (marking : Marking f)
    (rows : stores.plane.db.apiKeys = server.stores.plane.db.apiKeys.map f ++ new)
    (unique : Unique stores.plane.db) (entered : Enters stores.plane.db.apiKeys server stage) :
    Sound (server.settle request stage stores) := by
  have moved : ∀ row ∈ server.stores.plane.db.apiKeys, f row ∈ stores.plane.db.apiKeys := by
    intro row member
    rw [rows]
    exact List.mem_append_left _ (List.mem_map_of_mem member)
  constructor
  · exact unique
  · intro key there
    rcases at_settle there with rfl | before
    · exact entered
    · exact sound.creates key before
  · intro key there
    rcases at_settle there with rfl | before
    · exact entered.1
    · obtain ⟨row, member, rfl⟩ := sound.adds key before
      exact ⟨f row, moved row member, (marking.same row).symm⟩
  · intro first second key
    exact once_settle (fun _ _ => sound.addsOnce _ _ key) (by rintro rfl; exact entered.2)
  · intro tenantId keyId publicKey there
    rcases at_settle there with rfl | before
    · exact entered
    · obtain ⟨row, member, id, tenant, named⟩ := sound.marks tenantId keyId publicKey before
      exact ⟨f row, moved row member, (marking.id row).trans id, (marking.tenantId row).trans tenant,
        (marking.publicKey row).trans named⟩
  · intro tenantId publicKey there
    rcases at_settle there with rfl | before
    · exact entered.1
    · obtain ⟨row, member, tenant, named, ended⟩ := sound.removes tenantId publicKey before
      refine ⟨f row, moved row member, (marking.tenantId row).trans tenant,
        (marking.publicKey row).trans named, Bool.eq_false_iff.mpr fun active => ?_⟩
      rw [marking.falls row active] at ended
      cases ended
  · intro first second tenantId publicKey
    exact once_settle (fun _ _ => sound.removesOnce _ _ tenantId publicKey) (by rintro rfl; exact entered.2)

theorem Unique.map {db db' : PortalDb} {f : ApiKey → ApiKey} (unique : Unique db) (marking : Marking f)
    (rows : db'.apiKeys = db.apiKeys.map f) : Unique db' := by
  constructor
  · have ids : db'.apiKeys.map (·.id) = db.apiKeys.map (·.id) := by
      rw [rows, List.map_map]
      exact List.map_congr_left fun row _ => marking.id row
    exact ids ▸ unique.ids
  · have publicKeys : db'.apiKeys.map (·.publicKey) = db.apiKeys.map (·.publicKey) := by
      rw [rows, List.map_map]
      exact List.map_congr_left fun row _ => marking.publicKey row
    exact publicKeys ▸ unique.publicKeys

theorem Unique.concat {db db' : PortalDb} {key : ApiKey} (unique : Unique db)
    (fresh : ∀ row ∈ db.apiKeys, row.id ≠ key.id ∧ row.publicKey ≠ key.publicKey)
    (rows : db'.apiKeys = db.apiKeys ++ [key]) : Unique db' := by
  constructor
  · rw [rows, List.map_append]
    refine nodup_concat unique.ids fun member => ?_
    obtain ⟨row, stored, same⟩ := List.mem_map.mp member
    exact (fresh row stored).1 same
  · rw [rows, List.map_append]
    refine nodup_concat unique.publicKeys fun member => ?_
    obtain ⟨row, stored, same⟩ := List.mem_map.mp member
    exact (fresh row stored).2 same

theorem Sound.target {tenantId : TenantId} {keyId : Uuid} {publicKey : String} (sound : Sound server)
    (here : At (.revokeKey tenantId keyId publicKey) server)
    (active : server.stores.plane.db.apiKeys.any (PortalDb.isTarget tenantId keyId) = true) :
    ∃ row ∈ server.stores.plane.db.apiKeys, row.tenantId = tenantId ∧ row.publicKey = publicKey ∧
      row.isActive = true ∧ mark tenantId keyId row = { row with isActive := false } ∧
      ∀ other ∈ server.stores.plane.db.apiKeys, other ≠ row → mark tenantId keyId other = other := by
  obtain ⟨row, member, target⟩ := List.any_eq_true.mp active
  obtain ⟨found, stored, id, tenant, named⟩ := sound.marks _ _ _ here
  have parts : row.id = keyId ∧ row.tenantId = tenantId ∧ row.isActive = true := by
    simpa [PortalDb.isTarget, and_assoc] using target
  obtain rfl := sound.unique.eq_of_id member stored (parts.1.trans id.symm)
  refine ⟨row, member, tenant, named, parts.2.2, if_pos target, fun other there apart => if_neg fun also => ?_⟩
  have same : other.id = keyId := by
    have parts' : other.id = keyId ∧ other.tenantId = tenantId ∧ other.isActive = true := by
      simpa [PortalDb.isTarget, and_assoc] using also
    exact parts'.1
  exact apart (sound.unique.eq_of_id there member (same.trans id.symm))

theorem sound_step (sound : Sound server) (taken : step server e = some server') : Sound server' := by
  have unchanged : server.stores.plane.db.apiKeys = server.stores.plane.db.apiKeys.map id ++ [] := by simp
  rcases step_cases taken with ⟨request, asked, rfl, free, rfl⟩ |
    ⟨request, succeeds, stage, stage', stores', rfl, here, moved, rfl⟩
  · refine sound.settle marking_id unchanged sound.unique ?_
    cases asked with
    | generateApiKey keyId tenantId name publicKey secret =>
        simp only [PortalRequest.begin]
        split
        · trivial
        · rfl
    | _ => trivial
  · cases advances_of_advance moved with
    | failed | checked | registered | hashed | userCreated | issued | added | removed =>
        exact sound.settle marking_id unchanged sound.unique trivial
    | stored tenantId secret signup =>
        refine sound.settle marking_id unchanged ⟨sound.unique.ids, sound.unique.publicKeys⟩ ?_
        cases signup <;> trivial
    | created key fresh =>
        have active := sound.creates key ⟨request, here⟩
        have grown : server.stores.plane.db.apiKeys ++ [key] =
          server.stores.plane.db.apiKeys.map id ++ [key] := by rw [List.map_id]
        refine sound.settle marking_id grown (sound.unique.concat fresh rfl) ⟨⟨key, by simp, ?_⟩, ?_⟩
        · rw [generated, ← active]
        · intro there
          obtain ⟨row, member, same⟩ := sound.adds key there
          exact (fresh row member).2 (congrArg (·.publicKey) same).symm
    | found tenantId keyId key there =>
        refine sound.settle marking_id unchanged sound.unique ⟨key, List.mem_of_find?_eq_some there, ?_⟩
        have parts : key.id = keyId ∧ key.tenantId = tenantId := by
          simpa using List.find?_some there
        exact ⟨parts.1, parts.2, rfl⟩
    | revoked tenantId keyId publicKey active =>
        obtain ⟨row, member, tenant, named, live, ended, _⟩ := sound.target ⟨request, here⟩ active
        have rows : (server.stores.revokeKey tenantId keyId).2.plane.db.apiKeys =
          server.stores.plane.db.apiKeys.map (mark tenantId keyId) := rfl
        refine sound.settle (marking_mark tenantId keyId) (by rw [rows, List.append_nil])
          (sound.unique.map (marking_mark tenantId keyId) rows) ⟨⟨mark tenantId keyId row, ?_, ?_⟩, ?_⟩
        · rw [rows]
          exact List.mem_map_of_mem member
        · rw [ended]
          exact ⟨tenant, named, rfl⟩
        · intro there
          obtain ⟨old, stored, _, named', inactive⟩ := sound.removes tenantId publicKey there
          obtain rfl := sound.unique.eq_of_publicKey member stored (named.trans named'.symm)
          rw [live] at inactive
          cases inactive

theorem sound_of_run (sound : Sound start) (reached : step.run start es = some server) : Sound server :=
  Step.run_invariant (fun _ _ _ held taken => sound_step held taken) reached sound

end

def Adding (row : ApiKey) (server : PortalServer) : Prop := At (.addExtraKey (generated row)) server

def Removing (row : ApiKey) (server : PortalServer) : Prop :=
  At (.revokeExtraKey row.tenantId row.publicKey) server

section
variable (tenantId : TenantId) (start : PortalServer) (es : List PortalEvent) (server : PortalServer)

/-- Once the generation of the key has added it, the key is to be found in memory. -/
def Due (row : ApiKey) : Prop :=
  row.isActive = true ∨ Removing row server ∨ step.Happened (Overtakes tenantId row.publicKey) start es

structure Followed : Prop where
  stored : ∀ key ∈ extras tenantId server.stores, ∃ row ∈ server.stores.plane.db.apiKeys,
    row.tenantId = tenantId ∧ storedKey row = key
  present : ∀ row ∈ server.stores.plane.db.apiKeys, row.tenantId = tenantId →
    (storedKey row ∈ extras tenantId server.stores ↔ ¬ Adding row server ∧ Due tenantId start es server row)
  pending : ∀ row ∈ server.stores.plane.db.apiKeys, row.tenantId = tenantId → Adding row server →
    Due tenantId start es server row
  ended : ∀ row ∈ server.stores.plane.db.apiKeys, row.tenantId = tenantId →
    step.Happened (Overtakes tenantId row.publicKey) start es → row.isActive = false ∧ ¬ Removing row server
  known : ∀ publicKey, step.Happened (Overtakes tenantId publicKey) start es →
    ∃ row ∈ server.stores.plane.db.apiKeys, row.tenantId = tenantId ∧ row.publicKey = publicKey

end

section
variable {tenantId : TenantId} {start server : PortalServer} {es : List PortalEvent} {request : Nat}
  {succeeds : Bool} {stage stage' other : Stage} {stores : PortalStores}

theorem at_settle_iff (here : server.stages request ≠ some other) (apart : other ≠ stage') :
    At other (server.settle request stage' stores) ↔ At other server :=
  ⟨fun there => (at_settle there).resolve_left apart, at_of_ne here⟩

theorem overtaken_concat_iff (reached : step.run start es = some server) {e : PortalEvent}
    (quiet : ∀ publicKey, ¬ Overtakes tenantId publicKey server e) (publicKey : String) :
    step.Happened (Overtakes tenantId publicKey) start (es ++ [e]) ↔
      step.Happened (Overtakes tenantId publicKey) start es := by
  rw [Step.happened_concat_iff reached, or_iff_left (quiet publicKey)]

theorem not_overtakes (here : server.stages request = some stage)
    (other : ∀ publicKey, stage ≠ .revokeExtraKey tenantId publicKey) (publicKey : String) :
    ¬ Overtakes tenantId publicKey server (.run request succeeds) := by
  rintro ⟨removes, _⟩
  exact other publicKey (Option.some.inj (here.symm.trans removes))

theorem Followed.quiet {e : PortalEvent} (followed : Followed tenantId start es server)
    (reached : step.run start es = some server)
    (rows : stores.plane.db.apiKeys = server.stores.plane.db.apiKeys)
    (keys : stores.plane.tokenService.keys = server.stores.plane.tokenService.keys)
    (quiet : ∀ publicKey, ¬ Overtakes tenantId publicKey server e)
    (adds : ∀ key, At (.addExtraKey key) (server.settle request stage' stores) ↔
      At (.addExtraKey key) server)
    (removes : ∀ tenant publicKey, At (.revokeExtraKey tenant publicKey)
      (server.settle request stage' stores) ↔ At (.revokeExtraKey tenant publicKey) server) :
    Followed tenantId start (es ++ [e]) (server.settle request stage' stores) := by
  have memory : extras tenantId stores = extras tenantId server.stores := by rw [extras, extras, keys]
  have due : ∀ row, Due tenantId start (es ++ [e]) (server.settle request stage' stores) row ↔
      Due tenantId start es server row := by
    intro row
    rw [Due, Due, Removing, Removing, removes, overtaken_concat_iff reached quiet]
  constructor
  · simp only [stores_settle, memory, rows]
    exact followed.stored
  · simp only [stores_settle, memory, rows, Adding, adds, due]
    exact followed.present
  · simp only [stores_settle, rows, Adding, adds, due]
    exact followed.pending
  · simp only [stores_settle, rows, Removing, removes, overtaken_concat_iff reached quiet]
    exact followed.ended
  · simp only [stores_settle, rows, overtaken_concat_iff reached quiet]
    exact followed.known

theorem eq_of_generated {db : PortalDb} (unique : Unique db) {row old : ApiKey} (stored : row ∈ db.apiKeys)
    (stored' : old ∈ db.apiKeys) (same : generated row = generated old) : row = old :=
  unique.eq_of_publicKey stored stored' (congrArg (·.publicKey) same)

theorem Followed.created {key : ApiKey} (followed : Followed tenantId start es server)
    (sound : Sound server) (reached : step.run start es = some server)
    (here : server.stages request = some (.createKey key))
    (fresh : ∀ row ∈ server.stores.plane.db.apiKeys, row.id ≠ key.id ∧ row.publicKey ≠ key.publicKey)
    (rows : stores.plane.db.apiKeys = server.stores.plane.db.apiKeys ++ [key])
    (keys : stores.plane.tokenService.keys = server.stores.plane.tokenService.keys) :
    Followed tenantId start (es ++ [.run request succeeds])
      (server.settle request (.addExtraKey key) stores) := by
  have memory : extras tenantId stores = extras tenantId server.stores := by rw [extras, extras, keys]
  have active := sound.creates key ⟨request, here⟩
  have own : generated key = key := by rw [generated, ← active]
  have quiet : ∀ publicKey, ¬ Overtakes tenantId publicKey server (.run request succeeds) :=
    not_overtakes here (by rintro _ ⟨⟩)
  have removes : ∀ row, Removing row (server.settle request (.addExtraKey key) stores) ↔
      Removing row server := fun row => at_settle_iff (by rw [here]; rintro ⟨⟩) (by rintro ⟨⟩)
  have due : ∀ row, Due tenantId start (es ++ [.run request succeeds])
      (server.settle request (.addExtraKey key) stores) row ↔ Due tenantId start es server row := by
    intro row
    rw [Due, Due, removes, overtaken_concat_iff reached quiet]
  have adds : ∀ row ∈ server.stores.plane.db.apiKeys,
      (Adding row (server.settle request (.addExtraKey key) stores) ↔ Adding row server) := by
    intro row member
    refine at_settle_iff (by rw [here]; rintro ⟨⟩) fun same => (fresh row member).2 ?_
    exact congrArg (·.publicKey) (Stage.addExtraKey.inj same)
  have unseen : ¬ step.Happened (Overtakes tenantId key.publicKey) start es := by
    intro overtaken
    obtain ⟨row, member, _, same⟩ := followed.known key.publicKey overtaken
    exact (fresh row member).2 same
  constructor <;> simp only [stores_settle, memory, rows, List.mem_append, List.mem_singleton]
  · intro stored member
    obtain ⟨row, there, found⟩ := followed.stored stored member
    exact ⟨row, Or.inl there, found⟩
  · rintro row (old | rfl) tenant
    · rw [adds row old, due]
      exact followed.present row old tenant
    · refine iff_of_false (fun member => ?_) (fun absent => absent.1 ?_)
      · obtain ⟨old, there, _, same⟩ := followed.stored _ member
        exact (fresh old there).2 (congrArg (·.publicKey) same)
      · rw [Adding, own]
        exact at_settled
  · rintro row (old | rfl) tenant adding
    · rw [due]
      exact followed.pending row old tenant ((adds row old).mp adding)
    · exact Or.inl active
  · rintro row (old | rfl) tenant overtaken <;> rw [overtaken_concat_iff reached quiet] at overtaken
    · rw [removes]
      exact followed.ended row old tenant overtaken
    · exact absurd overtaken unseen
  · intro publicKey overtaken
    rw [overtaken_concat_iff reached quiet] at overtaken
    obtain ⟨row, member, found⟩ := followed.known publicKey overtaken
    exact ⟨row, Or.inl member, found⟩

theorem mem_extras_addExtraKey {key : ApiKey} {entry : StoredKey} :
    entry ∈ extras tenantId (server.stores.addExtraKey key) ↔
      entry ∈ extras tenantId server.stores ∨ key.tenantId = tenantId ∧ entry = storedKey key := by
  have added := TokenService.mem_keys_apply tenantId server.stores.plane.tokenService
    (.addExtraKey key.tenantId key.publicKey (utf8 key.secret)) entry
  refine added.trans (or_comm.trans (or_congr ?_ ?_))
  · simp [KeyOp.EndsExtra, extras]
  · obtain ⟨publicKey, secret⟩ := entry
    rw [KeyOp.addExtraKey.injEq, storedKey, StoredKey.mk.injEq, eq_comm (a := publicKey), eq_comm (a := secret)]

theorem Followed.added {key : ApiKey} (followed : Followed tenantId start es server)
    (sound : Sound server) (reached : step.run start es = some server)
    (here : server.stages request = some (.addExtraKey key)) :
    Followed tenantId start (es ++ [.run request succeeds])
      (server.settle request (.finished (.ok ())) (server.stores.addExtraKey key)) := by
  obtain ⟨home, stored, made⟩ := sound.adds key ⟨request, here⟩
  have quiet : ∀ publicKey, ¬ Overtakes tenantId publicKey server (.run request succeeds) :=
    not_overtakes here (by rintro _ ⟨⟩)
  have removes : ∀ row, Removing row (server.settle request (.finished (.ok ()))
      (server.stores.addExtraKey key)) ↔ Removing row server :=
    fun row => at_settle_iff (by rw [here]; rintro ⟨⟩) (by rintro ⟨⟩)
  have due : ∀ row, Due tenantId start (es ++ [.run request succeeds]) (server.settle request
      (.finished (.ok ())) (server.stores.addExtraKey key)) row ↔ Due tenantId start es server row := by
    intro row
    rw [Due, Due, removes, overtaken_concat_iff reached quiet]
  have settled : ¬ Adding home (server.settle request (.finished (.ok ())) (server.stores.addExtraKey key)) := by
    rintro ⟨asked, there⟩
    rw [stages_settle] at there
    split at there
    · cases there
    · rename_i apart
      exact apart (sound.addsOnce asked request _ there (made ▸ here))
  have adds : ∀ row ∈ server.stores.plane.db.apiKeys, row ≠ home →
      (Adding row (server.settle request (.finished (.ok ())) (server.stores.addExtraKey key)) ↔
        Adding row server) := by
    intro row member apart
    refine at_settle_iff (fun same => ?_) (by rintro ⟨⟩)
    rw [here, made] at same
    have equal := Stage.addExtraKey.inj (Option.some.inj same)
    exact apart (eq_of_generated sound.unique stored member equal).symm
  have credential : storedKey key = storedKey home := by rw [made]; rfl
  have owner : key.tenantId = home.tenantId := by rw [made]; rfl
  constructor
  · intro entry member
    rcases mem_extras_addExtraKey.mp member with old | ⟨tenant, rfl⟩
    · exact followed.stored entry old
    · exact ⟨home, stored, owner ▸ tenant, credential.symm⟩
  · intro row member tenant
    rw [due]
    by_cases same : row = home
    · subst same
      have wasAdding : Adding row server := ⟨request, made ▸ here⟩
      refine iff_of_true (mem_extras_addExtraKey.mpr (Or.inr ⟨owner.trans tenant, credential.symm⟩)) ?_
      exact ⟨settled, followed.pending row member tenant wasAdding⟩
    · rw [adds row member same, ← followed.present row member tenant]
      refine mem_extras_addExtraKey.trans (or_iff_left ?_)
      rintro ⟨_, equal⟩
      rw [credential] at equal
      exact same (sound.unique.eq_of_publicKey member stored (congrArg StoredKey.publicKey equal))
  · intro row member tenant adding
    rw [due]
    by_cases same : row = home
    · exact absurd (same ▸ adding) settled
    · exact followed.pending row member tenant ((adds row member same).mp adding)
  · intro row member tenant overtaken
    rw [removes]
    exact followed.ended row member tenant ((overtaken_concat_iff reached quiet _).mp overtaken)
  · intro publicKey overtaken
    exact followed.known publicKey ((overtaken_concat_iff reached quiet _).mp overtaken)

theorem Followed.revoked {keyId : Uuid} {publicKey : String} {tenant : TenantId}
    (followed : Followed tenantId start es server) (sound : Sound server)
    (reached : step.run start es = some server)
    (here : server.stages request = some (.revokeKey tenant keyId publicKey))
    (active : server.stores.plane.db.apiKeys.any (PortalDb.isTarget tenant keyId) = true)
    (rows : stores.plane.db.apiKeys = server.stores.plane.db.apiKeys.map (mark tenant keyId))
    (keys : stores.plane.tokenService.keys = server.stores.plane.tokenService.keys) :
    Followed tenantId start (es ++ [.run request succeeds])
      (server.settle request (.revokeExtraKey tenant publicKey) stores) := by
  have memory : extras tenantId stores = extras tenantId server.stores := by rw [extras, extras, keys]
  obtain ⟨home, stored, owner, named, live, ended, untouched⟩ := sound.target ⟨request, here⟩ active
  have marking := marking_mark tenant keyId
  have quiet : ∀ publicKey, ¬ Overtakes tenantId publicKey server (.run request succeeds) :=
    not_overtakes here (by rintro _ ⟨⟩)
  have adds : ∀ row, Adding (mark tenant keyId row)
      (server.settle request (.revokeExtraKey tenant publicKey) stores) ↔ Adding row server := by
    intro row
    rw [Adding, generated, marking.same]
    exact at_settle_iff (by rw [here]; rintro ⟨⟩) (by rintro ⟨⟩)
  have removesHome : Removing (mark tenant keyId home)
      (server.settle request (.revokeExtraKey tenant publicKey) stores) := by
    rw [Removing, marking.tenantId, marking.publicKey, owner, named]
    exact at_settled
  have removes : ∀ row ∈ server.stores.plane.db.apiKeys, row ≠ home →
      (Removing row (server.settle request (.revokeExtraKey tenant publicKey) stores) ↔
        Removing row server) := by
    intro row member apart
    refine at_settle_iff (by rw [here]; rintro ⟨⟩) fun same => apart ?_
    exact sound.unique.eq_of_publicKey member stored ((Stage.revokeExtraKey.inj same).2.trans named.symm)
  have due : ∀ row ∈ server.stores.plane.db.apiKeys, Due tenantId start (es ++ [.run request succeeds])
      (server.settle request (.revokeExtraKey tenant publicKey) stores) (mark tenant keyId row) ↔
        Due tenantId start es server row := by
    intro row member
    by_cases same : row = home
    · subst same
      exact iff_of_true (Or.inr (Or.inl removesHome)) (Or.inl live)
    · rw [untouched row member same, Due, Due, removes row member same,
        overtaken_concat_iff reached quiet]
  constructor <;> simp only [stores_settle, memory, rows, List.mem_map]
  · intro entry member
    obtain ⟨row, there, own, credential⟩ := followed.stored entry member
    exact ⟨_, ⟨row, there, rfl⟩, (marking.tenantId row).trans own, (marking.storedKey row).trans credential⟩
  · rintro _ ⟨row, member, rfl⟩ own
    rw [marking.storedKey, adds, due row member]
    exact followed.present row member ((marking.tenantId row).symm.trans own)
  · rintro _ ⟨row, member, rfl⟩ own adding
    rw [due row member]
    exact followed.pending row member ((marking.tenantId row).symm.trans own) ((adds row).mp adding)
  · rintro _ ⟨row, member, rfl⟩ own overtaken
    rw [overtaken_concat_iff reached quiet, marking.publicKey] at overtaken
    have before := followed.ended row member ((marking.tenantId row).symm.trans own) overtaken
    have apart : row ≠ home := by
      rintro rfl
      rw [live] at before
      cases before.1
    rw [untouched row member apart, removes row member apart]
    exact before
  · intro name overtaken
    rw [overtaken_concat_iff reached quiet] at overtaken
    obtain ⟨row, member, own, same⟩ := followed.known name overtaken
    exact ⟨_, ⟨row, member, rfl⟩, (marking.tenantId row).trans own, (marking.publicKey row).trans same⟩

theorem mem_extras_revokeExtraKey {tenant : TenantId} {publicKey : String} {entry : StoredKey} :
    entry ∈ extras tenantId (server.stores.revokeExtraKey tenant publicKey) ↔
      entry ∈ extras tenantId server.stores ∧ ¬ (tenant = tenantId ∧ publicKey = entry.publicKey) := by
  have removed := TokenService.mem_keys_apply tenantId server.stores.plane.tokenService
    (.revokeExtraKey tenant publicKey) entry
  exact removed.trans (or_iff_right (by rintro ⟨⟩))

theorem Followed.removed {publicKey : String} {tenant : TenantId}
    (followed : Followed tenantId start es server) (sound : Sound server)
    (reached : step.run start es = some server)
    (here : server.stages request = some (.revokeExtraKey tenant publicKey)) :
    Followed tenantId start (es ++ [.run request succeeds])
      (server.settle request (.finished (.ok ())) (server.stores.revokeExtraKey tenant publicKey)) := by
  obtain ⟨home, stored, owner, named, inactive⟩ := sound.removes tenant publicKey ⟨request, here⟩
  have wasRemoving : Removing home server := ⟨request, by rw [owner, named, here]⟩
  have adds : ∀ row, Adding row (server.settle request (.finished (.ok ()))
      (server.stores.revokeExtraKey tenant publicKey)) ↔ Adding row server :=
    fun row => at_settle_iff (by rw [here]; rintro ⟨⟩) (by rintro ⟨⟩)
  have settled : ¬ Removing home (server.settle request (.finished (.ok ()))
      (server.stores.revokeExtraKey tenant publicKey)) := by
    rintro ⟨asked, there⟩
    rw [stages_settle] at there
    split at there
    · cases there
    · rename_i apart
      exact apart (sound.removesOnce asked request _ _ there (by rw [owner, named, here]))
  have removes : ∀ row ∈ server.stores.plane.db.apiKeys, row ≠ home →
      (Removing row (server.settle request (.finished (.ok ()))
        (server.stores.revokeExtraKey tenant publicKey)) ↔ Removing row server) := by
    intro row member apart
    refine at_settle_iff (fun same => apart ?_) (by rintro ⟨⟩)
    rw [here] at same
    have equal := (Stage.revokeExtraKey.inj (Option.some.inj same)).2
    exact sound.unique.eq_of_publicKey member stored (equal.symm.trans named.symm)
  have overtakes : ∀ row ∈ server.stores.plane.db.apiKeys, row.tenantId = tenantId →
      (Overtakes tenantId row.publicKey server (.run request succeeds) ↔ row = home ∧ Adding row server) := by
    intro row member own
    constructor
    · rintro ⟨there, key, _, same, adding⟩
      rw [here] at there
      have equal := (Stage.revokeExtraKey.inj (Option.some.inj there)).2
      obtain ⟨old, inOld, rfl⟩ := sound.adds key adding
      obtain rfl := sound.unique.eq_of_publicKey member inOld same.symm
      exact ⟨sound.unique.eq_of_publicKey member stored (equal.symm.trans named.symm), adding⟩
    · rintro ⟨rfl, adding⟩
      exact ⟨by rw [here, ← owner, own, named], generated row, own, rfl, adding⟩
  have overtaken : ∀ row ∈ server.stores.plane.db.apiKeys, row.tenantId = tenantId →
      (step.Happened (Overtakes tenantId row.publicKey) start (es ++ [.run request succeeds]) ↔
        step.Happened (Overtakes tenantId row.publicKey) start es ∨ row = home ∧ Adding row server) := by
    intro row member own
    rw [Step.happened_concat_iff reached, overtakes row member own]
  have due : ∀ row ∈ server.stores.plane.db.apiKeys, row.tenantId = tenantId → row ≠ home →
      (Due tenantId start (es ++ [.run request succeeds]) (server.settle request (.finished (.ok ()))
        (server.stores.revokeExtraKey tenant publicKey)) row ↔ Due tenantId start es server row) := by
    intro row member own apart
    have elsewhere : ¬ (row = home ∧ Adding row server) := fun both => apart both.1
    rw [Due, Due, removes row member apart, overtaken row member own, or_iff_left elsewhere]
  constructor
  · intro entry member
    exact followed.stored entry (mem_extras_revokeExtraKey.mp member).1
  · intro row member own
    rw [adds]
    refine mem_extras_revokeExtraKey.trans ?_
    by_cases same : row = home
    · subst same
      refine iff_of_false (fun both => both.2 ⟨owner.symm.trans own, named.symm⟩) ?_
      rintro ⟨added, active | removing | happened⟩
      · rw [inactive] at active
        cases active
      · exact settled removing
      · rcases (overtaken row member own).mp happened with before | ⟨_, adding⟩
        · exact (followed.ended row member own before).2 wasRemoving
        · exact added adding
    · rw [due row member own same, ← followed.present row member own]
      refine and_iff_left ?_
      rintro ⟨_, equal⟩
      exact same (sound.unique.eq_of_publicKey member stored (equal.symm.trans named.symm))
  · intro row member own adding
    by_cases same : row = home
    · exact Or.inr (Or.inr ((overtaken row member own).mpr (Or.inr ⟨same, (adds row).mp adding⟩)))
    · exact (due row member own same).mpr (followed.pending row member own ((adds row).mp adding))
  · intro row member own happened
    rcases (overtaken row member own).mp happened with before | ⟨same, _⟩
    · obtain ⟨ended, kept⟩ := followed.ended row member own before
      refine ⟨ended, fun removing => kept ?_⟩
      exact (at_settle removing).resolve_left (by rintro ⟨⟩)
    · exact ⟨same ▸ inactive, same ▸ settled⟩
  · intro name happened
    rcases (Step.happened_concat_iff reached).mp happened with before | ⟨there, key, own, same, adding⟩
    · exact followed.known name before
    · obtain ⟨row, member, rfl⟩ := sound.adds key adding
      exact ⟨row, member, own, same⟩

theorem followed_step {server' : PortalServer} {e : PortalEvent} (followed : Followed tenantId start es server)
    (sound : Sound server) (reached : step.run start es = some server)
    (taken : step server e = some server') : Followed tenantId start (es ++ [e]) server' := by
  rcases step_cases taken with ⟨request, asked, rfl, free, rfl⟩ |
    ⟨request, succeeds, stage, stage', stores', rfl, here, moved, rfl⟩
  · refine followed.quiet reached rfl rfl (fun _ => id) ?_ ?_
    · refine fun key => at_settle_iff (by rw [free]; rintro ⟨⟩) fun same => ?_
      cases asked <;> simp only [PortalRequest.begin, reduceCtorEq] at same
      split at same <;> cases same
    · refine fun tenant publicKey => at_settle_iff (by rw [free]; rintro ⟨⟩) fun same => ?_
      cases asked <;> simp only [PortalRequest.begin, reduceCtorEq] at same
      split at same <;> cases same
  · cases advances_of_advance moved with
    | failed _ err fallible =>
        refine followed.quiet reached rfl rfl (not_overtakes here ?_) ?_ ?_
        · rintro publicKey rfl
          cases fallible
        · refine fun key => at_settle_iff (fun same => ?_) (by rintro ⟨⟩)
          obtain rfl := Option.some.inj (here.symm.trans same)
          cases fallible
        · refine fun tenant publicKey => at_settle_iff (fun same => ?_) (by rintro ⟨⟩)
          obtain rfl := Option.some.inj (here.symm.trans same)
          cases fallible
    | stored tenant secret signup =>
        refine followed.quiet reached rfl rfl (not_overtakes here (by rintro _ ⟨⟩)) ?_ ?_
        · exact fun key => at_settle_iff (by rw [here]; rintro ⟨⟩) (by cases signup <;> rintro ⟨⟩)
        · exact fun _ _ => at_settle_iff (by rw [here]; rintro ⟨⟩) (by cases signup <;> rintro ⟨⟩)
    | created key fresh => exact followed.created sound reached here fresh rfl rfl
    | added key => exact followed.added sound reached here
    | revoked tenant keyId publicKey active => exact followed.revoked sound reached here active rfl rfl
    | removed tenant publicKey => exact followed.removed sound reached here
    | checked | registered | hashed | userCreated | issued | found =>
        refine followed.quiet reached rfl rfl (not_overtakes here (by rintro _ ⟨⟩)) ?_ ?_
        · exact fun key => at_settle_iff (by rw [here]; rintro ⟨⟩) (by rintro ⟨⟩)
        · exact fun _ _ => at_settle_iff (by rw [here]; rintro ⟨⟩) (by rintro ⟨⟩)

theorem not_at_of_idle (idle : ∀ request, start.stages request = none) (stage : Stage) : ¬ At stage start := by
  rintro ⟨request, there⟩
  rw [idle] at there
  cases there

theorem sound_of_idle (idle : ∀ request, start.stages request = none)
    (unique : Unique start.stores.plane.db) : Sound start := by
  have nobody := not_at_of_idle idle
  refine ⟨unique, fun key there => absurd there (nobody _), fun key there => absurd there (nobody _), ?_,
    fun _ _ _ there => absurd there (nobody _), fun _ _ there => absurd there (nobody _), ?_⟩
  · exact fun request _ _ there => absurd ⟨request, there⟩ (nobody _)
  · exact fun request _ _ _ there => absurd ⟨request, there⟩ (nobody _)

theorem followed_start (idle : ∀ request, start.stages request = none)
    (unique : Unique start.stores.plane.db)
    (agreed : ∀ key, key ∈ extras tenantId start.stores ↔ ∃ row ∈ start.stores.plane.db.apiKeys,
      row.isActive = true ∧ row.tenantId = tenantId ∧ storedKey row = key) :
    Followed tenantId start [] start := by
  have nobody := not_at_of_idle idle
  have never : ∀ publicKey, ¬ step.Happened (Overtakes tenantId publicKey) start [] := by
    rintro publicKey ⟨ds, e, t, short, _⟩
    simp at short
  have due : ∀ row, Due tenantId start [] start row ↔ row.isActive = true := fun row =>
    or_iff_left fun later => later.elim (nobody _) (never _)
  constructor
  · intro key member
    obtain ⟨row, stored, _, own, credential⟩ := (agreed key).mp member
    exact ⟨row, stored, own, credential⟩
  · intro row stored own
    have added : ¬ Adding row start := nobody _
    rw [due, and_iff_right added, agreed]
    constructor
    · rintro ⟨other, stored', active, _, same⟩
      rwa [unique.eq_of_publicKey stored stored' (congrArg StoredKey.publicKey same).symm]
    · exact fun active => ⟨row, stored, active, own, rfl⟩
  · exact fun row _ _ adding => absurd adding (nobody _)
  · exact fun row _ _ overtaken => absurd overtaken (never _)
  · exact fun publicKey overtaken => absurd overtaken (never _)

theorem followed_of_run (idle : ∀ request, start.stages request = none)
    (unique : Unique start.stores.plane.db)
    (agreed : ∀ key, key ∈ extras tenantId start.stores ↔ ∃ row ∈ start.stores.plane.db.apiKeys,
      row.isActive = true ∧ row.tenantId = tenantId ∧ storedKey row = key)
    (reached : step.run start es = some server) : Followed tenantId start es server := by
  refine Step.run_induction (Followed tenantId start) (followed_start idle unique agreed) ?_ reached
  intro es server e server' before followed taken
  exact followed_step followed (sound_of_run (sound_of_idle idle unique) before) before taken

theorem extras_iff (followed : Followed tenantId start es server) (sound : Sound server)
    (completed : ∀ request stage, server.stages request = some stage → stage = .finished (.ok ())) :
    (∀ key, key ∈ extras tenantId server.stores ↔ ∃ row ∈ server.stores.plane.db.apiKeys,
        row.isActive = true ∧ row.tenantId = tenantId ∧ storedKey row = key) ↔
      ∀ publicKey, ¬ step.Happened (Overtakes tenantId publicKey) start es := by
  have quiet : ∀ stage, At stage server → stage = .finished (.ok ()) :=
    fun stage there => completed there.choose stage there.choose_spec
  have added : ∀ row, ¬ Adding row server := by
    intro row there
    cases quiet _ there
  have removed : ∀ row, ¬ Removing row server := by
    intro row there
    cases quiet _ there
  have present : ∀ row ∈ server.stores.plane.db.apiKeys, row.tenantId = tenantId →
      (storedKey row ∈ extras tenantId server.stores ↔
        row.isActive = true ∨ step.Happened (Overtakes tenantId row.publicKey) start es) := by
    intro row stored own
    rw [followed.present row stored own, and_iff_right (added row), Due, or_iff_right (removed row)]
  constructor
  · intro agrees publicKey overtaken
    obtain ⟨row, stored, own, rfl⟩ := followed.known publicKey overtaken
    obtain ⟨other, stored', active, _, same⟩ := (agrees _).mp ((present row stored own).mpr (Or.inr overtaken))
    obtain rfl := sound.unique.eq_of_publicKey stored stored' (congrArg StoredKey.publicKey same).symm
    rw [(followed.ended _ stored own overtaken).1] at active
    cases active
  · intro never key
    constructor
    · intro member
      obtain ⟨row, stored, own, rfl⟩ := followed.stored key member
      exact ⟨row, stored, ((present row stored own).mp member).resolve_right (never _), own, rfl⟩
    · rintro ⟨row, stored, active, own, rfl⟩
      exact (present row stored own).mpr (Or.inl active)

/-- Memory and database agree once all requests have succeeded exactly if the requests were in order. -/
theorem agrees_iff_inOrder (tenantId : TenantId) (start server : PortalServer) (es : List PortalEvent)
    (idle : ∀ request, start.stages request = none) (unique : Unique start.stores.plane.db)
    (agreed : Agrees tenantId start.stores) (reached : step.run start es = some server)
    (completed : ∀ request stage, server.stages request = some stage → stage = .finished (.ok ())) :
    Agrees tenantId server.stores ↔ InOrder tenantId start es := by
  have primary := primary_iff idle agreed.primary reached completed
  have extra := extras_iff (followed_of_run idle unique agreed.extra reached)
    (sound_of_run (sound_of_idle idle unique) reached) completed
  constructor
  · exact fun agrees => ⟨primary.mp agrees.primary, extra.mp agrees.extra⟩
  · exact fun ordered => ⟨primary.mpr ordered.rotations, extra.mpr ordered.extra⟩

end

/-- A tenant with its secret in both places and no open request. -/
def rested : PortalServer where
  stores := ⟨(KeyPlane.start none).registerAndStore demoTenant "old" true, []⟩
  stages _ := none

def crossing : List PortalEvent :=
  [.start 0 (.rotateMySecret demoTenant "one"), .start 1 (.rotateMySecret demoTenant "two"),
    .run 0 true, .run 1 true, .run 1 true, .run 0 true]

def crossed : PortalServer where
  stores := (((rested.stores.registerTenant demoTenant "one").registerTenant demoTenant "two").upsertSecret
    demoTenant "two").upsertSecret demoTenant "one"
  stages request := if request = 0 ∨ request = 1 then some (.finished (.ok ())) else none

theorem run_crossing : step.run rested crossing = some crossed := by
  have reached : ∃ stages, step.run rested crossing = some ⟨crossed.stores, stages⟩ ∧
      stages = crossed.stages := by
    refine ⟨_, rfl, funext fun request => ?_⟩
    match request with
    | 0 => rfl
    | 1 => rfl
    | request + 2 => simp [crossed, stages_settle, rested]
  obtain ⟨stages, run, rfl⟩ := reached
  exact run

theorem completed_crossed (request : Nat) (stage : Stage) (there : crossed.stages request = some stage) :
    stage = .finished (.ok ()) := by
  simp only [crossed] at there
  split at there
  · exact (Option.some.inj there).symm
  · cases there

theorem agrees_rested : Agrees demoTenant rested.stores := by
  refine ⟨by simp [rested, KeyPlane.registerAndStore, KeyPlane.registerTenant, TokenService.registerTenant,
    PortalDb.upsert], fun key => iff_of_false (fun member => ?_) ?_⟩
  · cases member
  · rintro ⟨row, stored, _⟩
    cases stored

theorem unique_rested : Unique rested.stores.plane.db := ⟨List.nodup_nil, List.nodup_nil⟩

theorem crossed_disagrees : ¬ ∀ (tenantId : TenantId) (start server : PortalServer) (es : List PortalEvent),
    (∀ request, start.stages request = none) → Unique start.stores.plane.db →
    Agrees tenantId start.stores → step.run start es = some server →
    (∀ request stage, server.stages request = some stage → stage = .finished (.ok ())) →
    Agrees tenantId server.stores := by
  intro agree
  have agrees := agree demoTenant rested crossed crossing (fun _ => rfl) unique_rested agrees_rested
    run_crossing completed_crossed
  have memory : crossed.stores.plane.tokenService.secrets demoTenant = some (utf8 "two") := by
    simp [crossed, PortalStores.registerTenant, PortalStores.upsertSecret, KeyPlane.registerTenant,
      TokenService.registerTenant]
  have database : AList.lookup demoTenant crossed.stores.plane.db.tenantSecrets = some "one" := by
    simp [crossed, PortalStores.upsertSecret, PortalDb.upsert]
  have primary := agrees.primary
  rw [memory, database] at primary
  have same := utf8_injective (Option.some.inj primary)
  revert same
  decide

def rotating : List PortalEvent :=
  [.start 0 (.rotateMySecret demoTenant "one"), .start 1 (.rotateMySecret demoTenant "two"),
    .run 0 true, .run 0 true, .run 1 true, .run 1 true]

def rotated : PortalServer where
  stores := (((rested.stores.registerTenant demoTenant "one").upsertSecret demoTenant "one").registerTenant
    demoTenant "two").upsertSecret demoTenant "two"
  stages := crossed.stages

theorem run_rotating : step.run rested rotating = some rotated := by
  have reached : ∃ stages, step.run rested rotating = some ⟨rotated.stores, stages⟩ ∧
      stages = rotated.stages := by
    refine ⟨_, rfl, funext fun request => ?_⟩
    match request with
    | 0 => rfl
    | 1 => rfl
    | request + 2 => simp [rotated, crossed, stages_settle, rested]
  obtain ⟨stages, run, rfl⟩ := reached
  exact run

theorem agrees_rotated : Agrees demoTenant rotated.stores := by
  refine ⟨?_, fun key => iff_of_false (fun member => ?_) ?_⟩
  · simp [rotated, PortalStores.registerTenant, PortalStores.upsertSecret, KeyPlane.registerTenant,
      TokenService.registerTenant, PortalDb.upsert]
  · cases member
  · rintro ⟨row, stored, _⟩
    cases stored

theorem agrees_iff_inOrder_rotated : Agrees demoTenant rotated.stores ∧ InOrder demoTenant rested rotating :=
  ⟨agrees_rotated, (agrees_iff_inOrder demoTenant rested rotated rotating (fun _ => rfl) unique_rested agrees_rested
    run_rotating completed_crossed).mp agrees_rotated⟩

end RealtimePlatform.Proof.KeyAgreement
