import RealtimePlatform.Backend.KeyRegistry
import RealtimePlatform.Backend.Realtime

/-!
# Keys in memory and in the database

The secrets that are checked live in the `TokenService`; the portal keeps a copy in SQLite, from which
`main` fills a new `TokenService` when the process starts. What is drawn at random (ids, secrets, public
keys) comes with the event. `saved` says whether the write that follows the registration succeeds.
-/

namespace RealtimePlatform.Backend
open Library

structure ApiKey where
  id : Uuid
  tenantId : TenantId
  name : String
  publicKey : String
  secret : String
  isActive : Bool

structure PortalDb where
  tenantSecrets : Table TenantId String
  apiKeys : List ApiKey

structure KeyPlane where
  tokenService : TokenService
  db : PortalDb

inductive PortalError where
  | emailAlreadyRegistered
  | invalidCredentials
  | apiKeyNameRequired
  | apiKeyNotFound
  | database
  deriving DecidableEq

namespace PortalDb

def upsert (tenantId : TenantId) (secret : String) (db : PortalDb) : PortalDb :=
  { db with tenantSecrets := AList.insert tenantId secret db.tenantSecrets }

-- The id is the primary key of the table and the public key is declared UNIQUE.
def create (key : ApiKey) (db : PortalDb) : Except PortalError PortalDb :=
  if db.apiKeys.any fun row => row.id = key.id || row.publicKey = key.publicKey then .error .database
  else .ok { db with apiKeys := db.apiKeys ++ [key] }

def findById (tenantId : TenantId) (keyId : Uuid) (db : PortalDb) : Option ApiKey :=
  db.apiKeys.find? fun row => row.id = keyId && row.tenantId = tenantId

def isTarget (tenantId : TenantId) (keyId : Uuid) (row : ApiKey) : Bool :=
  row.id = keyId && row.tenantId = tenantId && row.isActive

def revoke (tenantId : TenantId) (keyId : Uuid) (db : PortalDb) : Bool × PortalDb :=
  (db.apiKeys.any (isTarget tenantId keyId), { db with
    apiKeys := db.apiKeys.map fun row =>
      if isTarget tenantId keyId row then { row with isActive := false } else row })

def listAllActive (db : PortalDb) : List ApiKey := db.apiKeys.filter (·.isActive)

end PortalDb

def demoTenant : TenantId := ⟨List.replicate 15 0 ++ [1], rfl⟩

namespace KeyPlane

def registerTenant (tenantId : TenantId) (secret : String) (plane : KeyPlane) : KeyPlane :=
  { plane with tokenService := plane.tokenService.registerTenant tenantId (utf8 secret) }

def registerAndStore (tenantId : TenantId) (secret : String) (saved : Bool) (plane : KeyPlane) : KeyPlane :=
  let registered := plane.registerTenant tenantId secret
  if saved then { registered with db := registered.db.upsert tenantId secret } else registered

def signupTenant (tenantId : TenantId) (secret : String) (saved : Bool) (plane : KeyPlane) : KeyPlane :=
  plane.registerAndStore tenantId secret saved

def rotateMySecret (tenantId : TenantId) (secret : String) (saved : Bool) (plane : KeyPlane) : KeyPlane :=
  plane.registerAndStore tenantId secret saved

def generateApiKey (id : Uuid) (tenantId : TenantId) (name publicKey secret : String) (plane : KeyPlane) :
    Except PortalError KeyPlane :=
  let trimmed := String.ofList (trim name.toList)
  if trimmed.isEmpty then .error .apiKeyNameRequired
  else (plane.db.create ⟨id, tenantId, trimmed, publicKey, secret, true⟩).map fun db =>
    { tokenService := plane.tokenService.addExtraKey tenantId publicKey (utf8 secret), db := db }

def revokeApiKey (tenantId : TenantId) (keyId : Uuid) (plane : KeyPlane) : Except PortalError KeyPlane :=
  match plane.db.findById tenantId keyId with
  | none => .error .apiKeyNotFound
  | some key =>
    let (revoked, db) := plane.db.revoke tenantId keyId
    if !revoked then .error .apiKeyNotFound
    else .ok
      { tokenService := (plane.tokenService.revokeExtraKey tenantId key.publicKey).2, db := db }

def createTenant (tenantId : TenantId) (secret : String) (plane : KeyPlane) : KeyPlane :=
  plane.registerTenant tenantId secret

def rotateTenantSecret (tenantId : TenantId) (secret : String) (plane : KeyPlane) : KeyPlane :=
  plane.registerTenant tenantId secret

def revokeTenant (tenantId : TenantId) (plane : KeyPlane) : KeyPlane :=
  { plane with tokenService := plane.tokenService.revokeTenant tenantId }

/-- The `TokenService` that `main` serves with: the demo tenant, the stored secrets, the active keys. -/
def boot (demoTenantSecret : Option String) (db : PortalDb) : TokenService :=
  let demo := demoTenantSecret.elim TokenService.new fun secret =>
    TokenService.new.registerTenant demoTenant (utf8 secret)
  let reloaded := db.tenantSecrets.entries.foldl
    (fun auth row => auth.registerTenant row.1 (utf8 row.2)) demo
  db.listAllActive.foldl
    (fun auth key => auth.addExtraKey key.tenantId key.publicKey (utf8 key.secret)) reloaded

def restart (demoTenantSecret : Option String) (plane : KeyPlane) : KeyPlane :=
  { plane with tokenService := boot demoTenantSecret plane.db }

def start (demoTenantSecret : Option String) : KeyPlane :=
  let db : PortalDb := ⟨∅, []⟩
  ⟨boot demoTenantSecret db, db⟩

end KeyPlane

inductive KeyEvent where
  | signup (tenantId : TenantId) (secret : String) (saved : Bool)
  | rotateMySecret (tenantId : TenantId) (secret : String) (saved : Bool)
  | generateApiKey (id : Uuid) (tenantId : TenantId) (name publicKey secret : String)
  | revokeApiKey (tenantId : TenantId) (keyId : Uuid)
  | createTenant (tenantId : TenantId) (secret : String)
  | rotateTenantSecret (tenantId : TenantId) (secret : String)
  | revokeTenant (tenantId : TenantId)
  | restart
  deriving DecidableEq

namespace KeyPlane

def unlessError (plane : KeyPlane) : Except PortalError KeyPlane → KeyPlane
  | .ok changed => changed
  | .error _ => plane

def perform (demoTenantSecret : Option String) (plane : KeyPlane) : KeyEvent → KeyPlane
  | .signup tenantId secret saved => plane.signupTenant tenantId secret saved
  | .rotateMySecret tenantId secret saved => plane.rotateMySecret tenantId secret saved
  | .generateApiKey id tenantId name publicKey secret =>
    plane.unlessError (plane.generateApiKey id tenantId name publicKey secret)
  | .revokeApiKey tenantId keyId => plane.unlessError (plane.revokeApiKey tenantId keyId)
  | .createTenant tenantId secret => plane.createTenant tenantId secret
  | .rotateTenantSecret tenantId secret => plane.rotateTenantSecret tenantId secret
  | .revokeTenant tenantId => plane.revokeTenant tenantId
  | .restart => plane.restart demoTenantSecret

def step (demoTenantSecret : Option String) : Step KeyPlane KeyEvent :=
  fun plane e => some (plane.perform demoTenantSecret e)

def operation (plane : KeyPlane) : KeyEvent → Option KeyOp
  | .signup tenantId secret _ | .rotateMySecret tenantId secret _ | .createTenant tenantId secret
  | .rotateTenantSecret tenantId secret => some (.registerTenant tenantId (utf8 secret))
  | .generateApiKey id tenantId name publicKey secret =>
    (plane.generateApiKey id tenantId name publicKey secret).toOption.map fun _ =>
      .addExtraKey tenantId publicKey (utf8 secret)
  | .revokeApiKey tenantId keyId =>
    (plane.revokeApiKey tenantId keyId).toOption.bind fun _ =>
      (plane.db.findById tenantId keyId).map fun key => .revokeExtraKey tenantId key.publicKey
  | .revokeTenant tenantId => some (.revokeTenant tenantId)
  | .restart => none

section
variable {demo : Option String} {plane : KeyPlane}

theorem generateApiKey_ok {id : Uuid} {tenantId : TenantId} {name publicKey secret : String}
    {changed : KeyPlane} (generated : plane.generateApiKey id tenantId name publicKey secret = .ok changed) :
    ∃ key : ApiKey, key.tenantId = tenantId ∧ key.secret = secret ∧ changed =
      { tokenService := plane.tokenService.addExtraKey tenantId publicKey (utf8 secret)
        db := { plane.db with apiKeys := plane.db.apiKeys ++ [key] } } := by
  unfold generateApiKey PortalDb.create at generated
  simp only at generated
  split at generated
  · cases generated
  · split at generated
    · cases generated
    · exact ⟨_, rfl, rfl, (Except.ok.inj generated).symm⟩

theorem revokeApiKey_ok {tenantId : TenantId} {keyId : Uuid} {changed : KeyPlane}
    (revoked : plane.revokeApiKey tenantId keyId = .ok changed) :
    ∃ key, plane.db.findById tenantId keyId = some key ∧ changed =
      { tokenService := (plane.tokenService.revokeExtraKey tenantId key.publicKey).2
        db := (plane.db.revoke tenantId keyId).2 } := by
  unfold revokeApiKey at revoked
  split at revoked
  · cases revoked
  · rename_i key found
    simp only at revoked
    split at revoked
    · cases revoked
    · exact ⟨key, found, (Except.ok.inj revoked).symm⟩

theorem revokeApiKey_of_active {key : ApiKey} (stored : key ∈ plane.db.apiKeys)
    (active : key.isActive = true) :
    ∃ changed, plane.revokeApiKey key.tenantId key.id = .ok changed := by
  unfold revokeApiKey
  have found : (plane.db.findById key.tenantId key.id).isSome = true := by
    rw [PortalDb.findById, List.find?_isSome]
    exact ⟨key, stored, by simp⟩
  obtain ⟨row, there⟩ := Option.isSome_iff_exists.mp found
  have target : (plane.db.revoke key.tenantId key.id).1 = true :=
    List.any_eq_true.mpr ⟨key, stored, by simp [PortalDb.isTarget, active]⟩
  simp [there, target]

theorem tokenService_perform {e : KeyEvent} (kept : e ≠ .restart) :
    (plane.perform demo e).tokenService =
      (plane.operation e).elim plane.tokenService plane.tokenService.apply := by
  cases e with
  | signup tenantId secret saved | rotateMySecret tenantId secret saved =>
      cases saved <;> rfl
  | generateApiKey id tenantId name publicKey secret =>
      simp only [perform, operation]
      cases result : plane.generateApiKey id tenantId name publicKey secret with
      | error => rfl
      | ok changed =>
          obtain ⟨key, _, _, rfl⟩ := generateApiKey_ok result
          rfl
  | revokeApiKey tenantId keyId =>
      simp only [perform, operation]
      cases result : plane.revokeApiKey tenantId keyId with
      | error => rfl
      | ok changed =>
          obtain ⟨key, found, rfl⟩ := revokeApiKey_ok result
          simp only [found, unlessError]
          rfl
  | createTenant | rotateTenantSecret | revokeTenant => rfl
  | restart => exact absurd rfl kept

end

section
variable (tenantId : TenantId)

theorem secrets_reload {rows : List (Sigma fun _ : TenantId => String)} (unique : rows.NodupKeys)
    (auth : TokenService) :
    (rows.foldl (fun auth row => auth.registerTenant row.1 (utf8 row.2)) auth).secrets tenantId =
      ((rows.dlookup tenantId).map utf8).or (auth.secrets tenantId) := by
  induction rows generalizing auth with
  | nil => rfl
  | cons row rows ih =>
      obtain ⟨fresh, others⟩ := List.nodupKeys_cons.mp unique
      rw [List.foldl_cons, ih others]
      by_cases same : row.1 = tenantId
      · subst same
        have absent : rows.dlookup row.1 = none := List.dlookup_eq_none.mpr fresh
        rw [List.dlookup_cons_eq, absent]
        simp [TokenService.registerTenant]
      · rw [List.dlookup_cons_ne _ _ (Ne.symm same)]
        simp [TokenService.registerTenant, Function.update_of_ne (Ne.symm same)]

theorem keys_reload (rows : List (Sigma fun _ : TenantId => String)) (auth : TokenService) :
    (rows.foldl (fun auth row => auth.registerTenant row.1 (utf8 row.2)) auth).keys = auth.keys := by
  induction rows generalizing auth with
  | nil => rfl
  | cons row rows ih => exact ih _

theorem secrets_addExtraKeys (rows : List ApiKey) (auth : TokenService) :
    (rows.foldl (fun auth key => auth.addExtraKey key.tenantId key.publicKey (utf8 key.secret))
      auth).secrets = auth.secrets := by
  induction rows generalizing auth with
  | nil => rfl
  | cons row rows ih => exact ih _

theorem mem_keys_addExtraKeys (rows : List ApiKey) (auth : TokenService) (key : StoredKey) :
    key ∈ ((rows.foldl (fun auth key => auth.addExtraKey key.tenantId key.publicKey (utf8 key.secret))
      auth).keys tenantId).getD [] ↔ key ∈ (auth.keys tenantId).getD [] ∨
      ∃ row ∈ rows, row.tenantId = tenantId ∧ key = ⟨row.publicKey, utf8 row.secret⟩ := by
  induction rows generalizing auth with
  | nil => simp
  | cons row rows ih =>
      obtain ⟨publicKey, secret⟩ := key
      have added := TokenService.mem_keys_apply tenantId auth
        (.addExtraKey row.tenantId row.publicKey (utf8 row.secret)) ⟨publicKey, secret⟩
      simp only [KeyOp.EndsExtra, not_false_eq_true, and_true, KeyOp.addExtraKey.injEq] at added
      rw [List.foldl_cons, ih]
      simp only [List.exists_mem_cons_iff, ← or_assoc, StoredKey.mk.injEq]
      refine or_congr_left (added.trans ?_)
      rw [or_comm]
      refine or_congr_right (and_congr_right' ?_)
      rw [eq_comm, eq_comm (a := utf8 row.secret)]

theorem mem_boot {demo : Option String} {db : PortalDb} {secret : List UInt8} :
    secret ∈ (boot demo db).activeSecrets tenantId ↔
      ((AList.lookup tenantId db.tenantSecrets).map utf8).or
          (if tenantId = demoTenant then demo.map utf8 else none) = some secret ∨
        ∃ row ∈ db.apiKeys, row.isActive = true ∧ row.tenantId = tenantId ∧ utf8 row.secret = secret := by
  rw [TokenService.mem_activeSecrets]
  have first : ∀ other, (demo.elim TokenService.new fun secret =>
      TokenService.new.registerTenant demoTenant (utf8 secret)).secrets other =
        if other = demoTenant then demo.map utf8 else none := by
    intro other
    cases demo with
    | none => simp [TokenService.new]
    | some secret => simp [TokenService.registerTenant, TokenService.new, Function.update_apply]
  have empty : (demo.elim TokenService.new fun secret =>
      TokenService.new.registerTenant demoTenant (utf8 secret)).keys tenantId = none := by
    cases demo <;> rfl
  refine or_congr ?_ ?_
  · rw [boot, secrets_addExtraKeys, secrets_reload tenantId db.tenantSecrets.nodupKeys, first]
    rfl
  · simp only [boot, mem_keys_addExtraKeys, keys_reload, empty, Option.getD_none, List.not_mem_nil,
      false_or, PortalDb.listAllActive, List.mem_filter]
    constructor
    · rintro ⟨key, ⟨row, ⟨stored, active⟩, own, rfl⟩, rfl⟩
      exact ⟨row, stored, active, own, rfl⟩
    · rintro ⟨row, stored, active, own, rfl⟩
      exact ⟨_, ⟨row, ⟨stored, active⟩, own, rfl⟩, rfl⟩

theorem mem_boot_perform {demo : Option String} {plane : KeyPlane} {e : KeyEvent} {secret : List UInt8}
    (stored : secret ∈ (boot demo (plane.perform demo e).db).activeSecrets tenantId) :
    secret ∈ (boot demo plane.db).activeSecrets tenantId ∨
      ∃ op, plane.operation e = some op ∧ op.Registers tenantId secret := by
  have saving : ∀ (other : TenantId) (registered : String) (saved : Bool),
      secret ∈ (boot demo (plane.registerAndStore other registered saved).db).activeSecrets tenantId →
      secret ∈ (boot demo plane.db).activeSecrets tenantId ∨
        ∃ op, some (KeyOp.registerTenant other (utf8 registered)) = some op ∧
          op.Registers tenantId secret := by
    intro other registered saved there
    cases saved with
    | false => exact Or.inl there
    | true =>
        rcases (mem_boot tenantId).mp there with primary | extra
        · by_cases same : tenantId = other
          · subst same
            simp only [registerAndStore, if_true, PortalDb.upsert, AList.lookup_insert,
              Option.map_some, Option.some_or, Option.some.injEq] at primary
            exact Or.inr ⟨_, rfl, rfl, primary⟩
          · simp only [registerAndStore, if_true, PortalDb.upsert, AList.lookup_insert_ne same] at primary
            exact Or.inl ((mem_boot tenantId).mpr (Or.inl primary))
        · exact Or.inl ((mem_boot tenantId).mpr (Or.inr extra))
  cases e with
  | signup other registered saved | rotateMySecret other registered saved =>
      exact saving other registered saved stored
  | generateApiKey id other name publicKey generated =>
      simp only [perform, operation] at stored ⊢
      cases result : plane.generateApiKey id other name publicKey generated with
      | error =>
          rw [result] at stored
          exact Or.inl stored
      | ok changed =>
          obtain ⟨key, own, bytes, rfl⟩ := generateApiKey_ok result
          rw [result] at stored
          rcases (mem_boot tenantId).mp stored with primary | ⟨row, there, active, mine, rfl⟩
          · exact Or.inl ((mem_boot tenantId).mpr (Or.inl primary))
          · rcases List.mem_append.mp there with before | now
            · exact Or.inl ((mem_boot tenantId).mpr (Or.inr ⟨row, before, active, mine, rfl⟩))
            · rw [List.mem_singleton.mp now] at mine ⊢
              exact Or.inr ⟨_, rfl, own.symm.trans mine, by rw [bytes]⟩
  | revokeApiKey other keyId =>
      simp only [perform] at stored
      cases result : plane.revokeApiKey other keyId with
      | error =>
          rw [result] at stored
          exact Or.inl stored
      | ok changed =>
          obtain ⟨key, _, rfl⟩ := revokeApiKey_ok result
          rw [result] at stored
          rcases (mem_boot tenantId).mp stored with primary | ⟨row, there, active, mine, rfl⟩
          · exact Or.inl ((mem_boot tenantId).mpr (Or.inl primary))
          · simp only [unlessError, PortalDb.revoke, List.mem_map] at there
            obtain ⟨old, before, same⟩ := there
            split at same
            · rw [← same] at active
              cases active
            · rw [← same] at active mine ⊢
              exact Or.inl ((mem_boot tenantId).mpr (Or.inr ⟨old, before, active, mine, rfl⟩))
  | createTenant | rotateTenantSecret | revokeTenant | restart => exact Or.inl stored

end

end KeyPlane

def defaultTtlSecs : Nat := 3600

structure IssueTokenDto where
  tenantId : TenantId
  secret : String
  sub : String
  ttlSecs : Option UInt64

structure TokenResponse where
  token : String
  expiresIn : Nat
  wsUrl : String

inductive IssueTokenError where
  | invalidTenantSecret
  deriving DecidableEq

def IssueTokenDto.ttl (dto : IssueTokenDto) : Nat := (dto.ttlSecs.map (·.toNat)).getD defaultTtlSecs

def issueClientToken (codec : TokenCodec) (encoder : TokenEncoder) (auth : TokenService) (nowUnix : Nat)
    (dto : IssueTokenDto) (wsUrl : String) : Except IssueTokenError TokenResponse :=
  if !auth.verifyTenantSecret dto.tenantId (utf8 dto.secret) then .error .invalidTenantSecret
  else match auth.issueToken codec encoder nowUnix dto.tenantId dto.sub dto.ttl with
    | .error _ => .error .invalidTenantSecret
    | .ok token => .ok ⟨token, dto.ttl, wsUrl⟩

structure AdminMintTokenDto where
  sub : String
  ttlSecs : Option UInt64

def AdminMintTokenDto.ttl (dto : AdminMintTokenDto) : Nat := (dto.ttlSecs.map (·.toNat)).getD defaultTtlSecs

def mintTenantToken (codec : TokenCodec) (encoder : TokenEncoder) (auth : TokenService) (nowUnix : Nat)
    (tenantId : TenantId) (dto : AdminMintTokenDto) : Except AuthError String :=
  auth.issueToken codec encoder nowUnix tenantId dto.sub dto.ttl

theorem IssueTokenDto.ttl_lt (dto : IssueTokenDto) : dto.ttl < 2 ^ 64 := by
  unfold ttl
  cases dto.ttlSecs with
  | none => decide
  | some ttlSecs => exact ttlSecs.toNat_lt

theorem issueClientToken_ok {codec : TokenCodec} {encoder : TokenEncoder} {auth : TokenService}
    {nowUnix : Nat} {dto : IssueTokenDto} {wsUrl : String} {response : TokenResponse}
    (issued : issueClientToken codec encoder auth nowUnix dto wsUrl = .ok response) :
    ∃ primary, auth.secrets dto.tenantId = some primary ∧
      response.token = TokenService.sign codec encoder nowUnix dto.tenantId dto.sub dto.ttl primary := by
  unfold issueClientToken at issued
  split at issued
  · cases issued
  unfold TokenService.issueToken at issued
  cases stored : auth.secrets dto.tenantId with
  | none =>
      rw [stored] at issued
      cases issued
  | some primary =>
      rw [stored] at issued
      cases issued
      exact ⟨primary, rfl, rfl⟩

theorem expiresIn_eq {codec : TokenCodec} {encoder : TokenEncoder} {auth : TokenService} {nowUnix : Nat}
    {dto : IssueTokenDto} {wsUrl : String} {response : TokenResponse}
    (issued : issueClientToken codec encoder auth nowUnix dto wsUrl = .ok response) :
    response.expiresIn = dto.ttl := by
  unfold issueClientToken at issued
  split at issued
  · cases issued
  split at issued
  · cases issued
  · cases issued
    rfl

theorem mintTenantToken_ok {codec : TokenCodec} {encoder : TokenEncoder} {auth : TokenService} {nowUnix : Nat}
    {tenantId : TenantId} {dto : AdminMintTokenDto} {token : String}
    (minted : mintTenantToken codec encoder auth nowUnix tenantId dto = .ok token) :
    ∃ primary, auth.secrets tenantId = some primary ∧
      token = TokenService.sign codec encoder nowUnix tenantId dto.sub dto.ttl primary := by
  unfold mintTenantToken TokenService.issueToken at minted
  cases stored : auth.secrets tenantId with
  | none =>
      rw [stored] at minted
      cases minted
  | some primary =>
      rw [stored] at minted
      cases minted
      exact ⟨primary, rfl, rfl⟩

end RealtimePlatform.Backend
