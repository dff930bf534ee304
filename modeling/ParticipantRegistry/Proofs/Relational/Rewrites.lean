import ParticipantRegistry.Proofs.Relational.PortCalls

/-!
# What mutations make of a database

A mutation that a session carries out finds the tables that it needs, changes rows of them, and tells
the registrar of a group that was created or deleted, as the last thing before it commits. One that
finds nothing to do leaves the rows as they are.
-/

namespace ParticipantRegistry

namespace Database

def Complete (db : Database) : Prop := ∀ table, db.has table = true

theorem Complete.exists_rows {db : Database} (h : db.Complete) :
    ∃ users groups endpoints redirects businessCards,
      db = ⟨some users, some groups, some endpoints, some redirects, some businessCards,
        db.upgraded⟩ := by
  obtain ⟨users, husers⟩ := Option.isSome_iff_exists.mp (h .users)
  obtain ⟨groups, hgroups⟩ := Option.isSome_iff_exists.mp (h .groups)
  obtain ⟨endpoints, hendpoints⟩ := Option.isSome_iff_exists.mp (h .endpoints)
  obtain ⟨redirects, hredirects⟩ := Option.isSome_iff_exists.mp (h .redirects)
  obtain ⟨cards, hcards⟩ := Option.isSome_iff_exists.mp (h .businessCards)
  refine ⟨users, groups, endpoints, redirects, cards, ?_⟩
  rw [← husers, ← hgroups, ← hendpoints, ← hredirects, ← hcards]

def hasUser (id : Text) (db : Database) : Bool := Table.hasKey id (db.users.getD [])

def hasGroup (participantId : Text) (db : Database) : Bool :=
  Table.hasKey participantId (db.groups.getD [])

def withoutGroup (participantId : Text) (db : Database) : Database :=
  { db with
    groups := db.groups.map (Table.erase participantId)
    endpoints := db.endpoints.map (·.filter (·.participantId ≠ participantId))
    redirects := db.redirects.map (·.filter (·.participantId ≠ participantId))
    businessCards := db.businessCards.map (Table.erase participantId) }

end Database

namespace Mutation

/-- What a mutation that is carried out makes of a database, and what it has found there. -/
inductive Rewrites (db : Database) : Mutation → Database → Prop
  | deleteGroup (participantId : Text) (deprovision : Bool) :
      Rewrites db (.deleteGroup participantId deprovision) (db.withoutGroup participantId)
  | createGroup (group : ServiceGroup) (register : Bool) (owner : db.hasUser group.ownerId = true)
      (absent : db.hasGroup group.participantId = false) :
      Rewrites db (.createGroup group register)
        { db with groups := db.groups.map (Table.put group) }
  | mergeEndpoint (endpoint : Endpoint) (group : db.hasGroup endpoint.participantId = true) :
      Rewrites db (.mergeEndpoint endpoint)
        { db with endpoints := db.endpoints.map (Table.put endpoint) }
  | upsertRedirect (redirect : Redirect) (group : db.hasGroup redirect.participantId = true) :
      Rewrites db (.upsertRedirect redirect)
        { db with redirects := db.redirects.map (Table.put redirect) }
  | deleteBusinessCard (card : BusinessCard) :
      Rewrites db (.deleteBusinessCard card)
        { db with businessCards := db.businessCards.map (Table.erase card.participantId) }
  | upsertBusinessCard (card : BusinessCard) (row : CardRow) (key : row.participantId = card.participantId)
      (group : db.hasGroup card.participantId = true) :
      Rewrites db (.upsertBusinessCard card)
        { db with businessCards := db.businessCards.map (Table.put row) }
  | keepBusinessCard (card : BusinessCard) (group : db.hasGroup card.participantId = true) :
      Rewrites db (.upsertBusinessCard card) db

def announcements : Mutation → List Registration
  | .deleteGroup participantId deprovision => if deprovision then [.deregister participantId] else []
  | .createGroup group register => if register then [.register group.participantId] else []
  | .mergeEndpoint _ | .upsertRedirect _ | .deleteBusinessCard _ | .upsertBusinessCard _ => []

theorem register_mem_announcements {mutation : Mutation} {participantId : Text} :
    .register participantId ∈ mutation.announcements ↔
      ∃ group, mutation = .createGroup group true ∧ group.participantId = participantId := by
  cases mutation with
  | deleteGroup _ deprovision => cases deprovision <;> simp [announcements]
  | createGroup group register => cases register <;> simp [announcements, eq_comm]
  | _ => simp [announcements]

theorem deregister_mem_announcements {mutation : Mutation} {participantId : Text} :
    .deregister participantId ∈ mutation.announcements ↔
      mutation = .deleteGroup participantId true := by
  cases mutation with
  | deleteGroup _ deprovision => cases deprovision <;> simp [announcements, eq_comm]
  | createGroup group register => cases register <;> simp [announcements]
  | _ => simp [announcements]

end Mutation

namespace Session

variable {α β ρ κ : Type} {s s' : Session}

def withCurrent (db : Database) (s : Session) : Session :=
  { s with storage := { s.storage with current := db } }

def telling (told : List Registration) (s : Session) : Session :=
  { s with registrar := s.registrar.map fun r => { r with done := r.done ++ told } }

theorem telling_of_none (h : s.registrar = none) (told : List Registration) : s.telling told = s := by
  rw [telling, h, Option.map_none, ← h]

theorem telling_nil (s : Session) : s.telling [] = s := by
  cases h : s.registrar with
  | none => exact telling_of_none h []
  | some registrar =>
    simp only [telling, h, Option.map_some, List.append_nil]
    rw [← h]

theorem Open.withCurrent (h : s.Open) (db : Database) : (s.withCurrent db).Open :=
  ⟨h.pending, h.transaction, h.refusal⟩

theorem Open.telling (h : s.Open) (told : List Registration) : (s.telling told).Open :=
  ⟨h.pending, h.transaction, h.refusal⟩

/-- What is left of a session by a mutation that it answers. -/
inductive Ends (s : Session) (mutation : Mutation) : Bool → Session → Prop
  | idle : Ends s mutation false s.begun.committed
  | done {db : Database} (rewrites : mutation.Rewrites s.storage.current db) :
      Ends s mutation true ((s.begun.withCurrent db).telling mutation.announcements).committed

theorem select_ok {place : Place ρ} {values : List Text} {rows : List ρ} (hp : s.pending = [])
    (h : select place values s = (.ok rows, s')) :
    place.rows s.storage.current = some rows ∧ s' = s.begun ∧ s.begun.Open := by
  rw [select_eq place values hp] at h
  cases hfound : s.found place values with
  | error fault =>
    rw [hfound] at h
    cases h
  | ok found =>
    obtain ⟨hu, hr⟩ := found_ok hfound
    rw [hfound, touched, hu, isCutOff, hr] at h
    cases h
    refine ⟨?_, rfl, hp, rfl, hr⟩
    rw [found, hu, hr] at hfound
    cases hrows : place.rows s.storage.current with
    | none =>
      rw [hrows] at hfound
      cases hfound
    | some rows =>
      rw [hrows] at hfound
      simp only [if_true] at hfound
      split at hfound <;> cases hfound
      rfl

theorem selectKey_ok [Keyed ρ κ] [DecidableEq κ] {place : Place ρ} {k : κ} {values : List Text}
    {row? : Option ρ} (hp : s.pending = []) (h : selectKey place k values s = (.ok row?, s')) :
    ∃ rows, place.rows s.storage.current = some rows ∧ row? = Table.find? k rows ∧ s' = s.begun ∧
      s.begun.Open := by
  obtain ⟨rows, s₁, hselect, hfind⟩ := Call.ok_of_bind h
  obtain ⟨hrows, rfl, ho⟩ := select_ok hp hselect
  cases hfind
  exact ⟨rows, hrows, rfl, rfl, ho⟩

theorem findGroup_ok {participantId : Text} {group? : Option ServiceGroup} (hp : s.pending = [])
    (h : findGroup participantId s = (.ok group?, s')) :
    group?.isSome = s.storage.current.hasGroup participantId ∧ s' = s.begun ∧ s.begun.Open := by
  obtain ⟨rows, hrows, rfl, hs', ho⟩ := selectKey_ok hp h
  refine ⟨?_, hs', ho⟩
  change s.storage.current.groups = some rows at hrows
  rw [Database.hasGroup, hrows, Table.hasKey_eq_isSome]
  rfl

theorem lookupUser_ok {id : Text} {user? : Option User} (hp : s.pending = [])
    (h : lookupUser id s = (.ok user?, s')) :
    user?.isSome = s.storage.current.hasUser id ∧ s' = s.begun ∧ s.begun.Open := by
  obtain ⟨rows, hrows, rfl, hs', ho⟩ := selectKey_ok hp h
  refine ⟨?_, hs', ho⟩
  change s.storage.current.users = some rows at hrows
  rw [Database.hasUser, hrows, Table.hasKey_eq_isSome]
  rfl

theorem findCard_ok {participantId : Text} {card? : Option BusinessCard} (hp : s.pending = [])
    (h : findCard participantId s = (.ok card?, s')) : s' = s.begun ∧ s.begun.Open := by
  obtain ⟨row?, s₁, hselect, hcard⟩ := Call.ok_of_bind h
  obtain ⟨rows, -, -, rfl, ho⟩ := selectKey_ok hp hselect
  refine ⟨?_, ho⟩
  cases row? with
  | none =>
    cases hcard
    rfl
  | some row =>
    obtain ⟨card, s₂, hread, hreturn⟩ := Call.ok_of_bind hcard
    cases hreturn
    rw [cardOf] at hread
    cases hd : StoredEntities.decode row.entities with
    | ok entities =>
      rw [hd] at hread
      cases hread
      rfl
    | error e =>
      rw [hd] at hread
      cases hread

theorem setRows_ok {place : Place ρ} {rows : List ρ} (h : setRows place rows s = (.ok (), s')) :
    s' = s.written place rows := by
  rw [setRows_eq] at h
  split at h <;> cases h
  rfl

theorem rowsOf_ok {place : Place ρ} {rows : List ρ} (hr : s.refusal = none)
    (h : rowsOf place s = (.ok rows, s')) : place.rows s.storage.current = some rows ∧ s' = s := by
  rw [rowsOf_eq place hr] at h
  split at h <;> cases h
  exact ⟨by assumption, rfl⟩

theorem remove_ok {place : Place ρ} {doomed : ρ → Bool} (ho : s.Open)
    (h : remove place doomed s = (.ok (), s')) : ∃ rows, place.rows s.storage.current = some rows ∧
      s' = s.written place (rows.filter fun row => !doomed row) := by
  obtain ⟨rows, s₁, hrows, hset⟩ := Call.ok_of_bind h
  obtain ⟨hrows, rfl⟩ := rowsOf_ok ho.refusal hrows
  exact ⟨rows, hrows, setRows_ok hset⟩

theorem store_ok [Keyed ρ κ] [DecidableEq κ] {place : Place ρ} {row : ρ} {values : List Text}
    (ho : s.Open) (h : store place row values s = (.ok (), s')) :
    ∃ rows, place.rows s.storage.current = some rows ∧ s' = s.written place (Table.put row rows) := by
  have hbegun : s.begun = s := by rw [begun, ← ho.transaction]
  rw [store, sending, hbegun] at h
  split at h
  · next hwork =>
    cases h
    obtain ⟨rows, s₁, hrows, hnext⟩ := Call.ok_of_bind hwork
    obtain ⟨hrows, rfl⟩ := rowsOf_ok ho.refusal hrows
    obtain ⟨_, s₂, hbind, hset⟩ := Call.ok_of_bind hnext
    rw [bind_eq] at hbind
    split at hbind <;> cases hbind
    exact ⟨rows, hrows, setRows_ok hset⟩
  · cases h

theorem storeOver_ok [Keyed ρ κ] [DecidableEq κ] [DecidableEq ρ] {place : Place ρ} {rows : List ρ}
    {row : ρ} {values : List Text} (ho : s.Open) (hrows : place.rows s.storage.current = some rows)
    (h : storeOver place (Table.find? (key row) rows) row values s = (.ok (), s')) :
    s' = s.written place (Table.put row rows) ∨ s' = s ∧ Table.put row rows = rows := by
  rw [storeOver] at h
  split at h
  · obtain ⟨rows', hrows', hs'⟩ := store_ok ho h
    rw [hrows] at hrows'
    cases hrows'
    exact .inl hs'
  · next hstored =>
    cases h
    exact .inr ⟨rfl, Table.put_of_find? (not_not.mp hstored)⟩

theorem announceIf_ok {told : Bool} {participantId : Text} {registration : Registration} {a b : α}
    (h : (do
      if told then announce participantId registration
      return a : Call Session α) s = (.ok b, s')) :
    b = a ∧ s' = s.telling (if told then [registration] else []) := by
  cases told with
  | false =>
    cases h
    exact ⟨rfl, (telling_nil s).symm⟩
  | true =>
    obtain ⟨_, s₁, hannounce, hreturn⟩ := Call.ok_of_bind h
    cases hreturn
    rw [announce_eq] at hannounce
    refine ⟨rfl, ?_⟩
    cases hr : s.registrar with
    | none =>
      rw [hr] at hannounce
      cases hannounce
      rw [telling_of_none hr]
    | some registrar =>
      rw [hr] at hannounce
      dsimp only at hannounce
      split at hannounce <;> cases hannounce
      rw [telling, hr]
      rfl

theorem atomic_ok {action : Text} {work : Call Session α} {a : α}
    (h : atomic action work s = (.ok a, s')) :
    ∃ s₁, work s = (.ok a, s₁) ∧ (s₁.Open → s' = s₁.committed) := by
  cases hwork : work s with
  | mk outcome s₁ =>
    cases outcome with
    | error e =>
      rw [atomic_of_error action hwork] at h
      split at h <;> cases h
    | ok a' =>
      have hwhole : (work >>= fun a => commit >>= fun _ => pure a : Call Session α) s =
          (commit >>= fun _ => pure a') s₁ := Call.bind_of_ok hwork
      cases hcommit : commit s₁ with
      | mk outcome s₂ =>
        cases outcome with
        | ok _ =>
          rw [Call.bind_of_ok hcommit] at hwhole
          rw [atomic, hwhole] at h
          cases h
          refine ⟨s₁, rfl, fun ho => ?_⟩
          rw [ho.commit_eq] at hcommit
          cases hcommit
          rfl
        | error e =>
          rw [Call.bind_of_error hcommit] at hwhole
          rw [atomic, hwhole] at h
          cases e with
          | storage e => cases h
          | fault fault => cases fault <;> cases h

theorem Ends.of_idle {mutation : Mutation} (ho : s.begun.Open) {s₁ : Session} (h₁ : s₁ = s.begun)
    (hs' : s₁.Open → s' = s₁.committed) : s.Ends mutation false s' := by
  subst h₁
  rw [hs' ho]
  exact .idle

theorem Ends.of_done {mutation : Mutation} {db : Database} (ho : s.begun.Open)
    (hm : mutation.Rewrites s.storage.current db) {s₁ : Session}
    (h₁ : s₁ = (s.begun.withCurrent db).telling mutation.announcements)
    (hs' : s₁.Open → s' = s₁.committed) : s.Ends mutation true s' := by
  subst h₁
  rw [hs' ((ho.withCurrent db).telling _)]
  exact .done hm

theorem removeGroup_ok {participantId : Text} (ho : s.Open)
    (h : removeGroup participantId s = (.ok (), s')) :
    s' = s.withCurrent (s.storage.current.withoutGroup participantId) := by
  obtain ⟨_, s₁, hendpoints, hnext⟩ := Call.ok_of_bind h
  obtain ⟨endpoints, he, rfl⟩ := remove_ok ho hendpoints
  obtain ⟨_, s₂, hredirects, hnext⟩ := Call.ok_of_bind hnext
  obtain ⟨redirects, hr, rfl⟩ := remove_ok (ho.written _ _) hredirects
  obtain ⟨_, s₃, hcards, hgroups⟩ := Call.ok_of_bind hnext
  obtain ⟨cards, hc, rfl⟩ := remove_ok ((ho.written _ _).written _ _) hcards
  obtain ⟨groups, hg, rfl⟩ := remove_ok (((ho.written _ _).written _ _).written _ _) hgroups
  change s.storage.current.endpoints = some endpoints at he
  change s.storage.current.redirects = some redirects at hr
  change s.storage.current.businessCards = some cards at hc
  change s.storage.current.groups = some groups at hg
  simp only [withCurrent, Database.withoutGroup, he, hr, hc, hg, Option.map_some, written,
    Table.erase, ← decide_not]
  rfl

theorem deleteGroup_ok {participantId : Text} {deprovision changed : Bool} (hp : s.pending = [])
    (h : deleteGroup participantId deprovision s = (.ok changed, s')) :
    s.Ends (.deleteGroup participantId deprovision) changed s' := by
  obtain ⟨s₁, hwork, hs'⟩ := atomic_ok h
  obtain ⟨group?, s₂, hfind, hnext⟩ := Call.ok_of_bind hwork
  obtain ⟨-, rfl, ho⟩ := findGroup_ok hp hfind
  cases group? with
  | none =>
    cases hnext
    exact .of_idle ho rfl hs'
  | some group =>
    obtain ⟨_, s₃, hremove, htold⟩ := Call.ok_of_bind hnext
    obtain rfl := removeGroup_ok ho hremove
    obtain ⟨rfl, hs₁⟩ := announceIf_ok htold
    exact .of_done ho (.deleteGroup participantId deprovision) hs₁ hs'

theorem createGroup_ok {group created : ServiceGroup} {register : Bool} (hp : s.pending = [])
    (h : createGroup group register s = (.ok created, s')) :
    created = group ∧ s.Ends (.createGroup group register) true s' := by
  obtain ⟨s₁, hwork, hs'⟩ := atomic_ok h
  obtain ⟨owner?, s₂, howner, hnext⟩ := Call.ok_of_bind hwork
  obtain ⟨hknown, rfl, ho⟩ := lookupUser_ok hp howner
  cases owner? with
  | none => cases hnext
  | some owner =>
    obtain ⟨group?, s₃, hfind, hnext⟩ := Call.ok_of_bind hnext
    obtain ⟨habsent, rfl, -⟩ := findGroup_ok (s := s.begun) hp hfind
    cases group? with
    | some stored => cases hnext
    | none =>
      cases hcheck : group.check with
      | error field =>
        rw [hcheck] at hnext
        cases hnext
      | ok _ =>
        rw [hcheck] at hnext
        have hwork : (do
            store .groups group ([group.participantId, group.ownerId] ++ group.extension.toList)
            if register then announce group.participantId (.register group.participantId)
            return group : Call Session ServiceGroup) s.begun = (.ok created, s₁) := hnext
        obtain ⟨_, s₄, hstore, htold⟩ := Call.ok_of_bind hwork
        obtain ⟨groups, hgroups, rfl⟩ := store_ok ho hstore
        obtain ⟨hcreated, hs₁⟩ := announceIf_ok htold
        refine ⟨hcreated, .of_done ho (.createGroup group register hknown.symm habsent.symm) ?_ hs'⟩
        change s.storage.current.groups = some groups at hgroups
        rw [hgroups]
        exact hs₁

theorem mergeEndpoint_ok {endpoint : Endpoint} {changed : Bool} (hp : s.pending = [])
    (h : mergeEndpoint endpoint s = (.ok changed, s')) :
    s.Ends (.mergeEndpoint endpoint) changed s' := by
  obtain ⟨s₁, hwork, hs'⟩ := atomic_ok h
  obtain ⟨group?, s₂, hfind, hnext⟩ := Call.ok_of_bind hwork
  obtain ⟨hgroup, rfl, ho⟩ := findGroup_ok hp hfind
  cases group? with
  | none =>
    cases hnext
    exact .of_idle ho rfl hs'
  | some group =>
    obtain ⟨stored?, s₃, hselect, hnext⟩ := Call.ok_of_bind hnext
    obtain ⟨rows, hrows, rfl, rfl, -⟩ := selectKey_ok (s := s.begun) hp hselect
    rw [endpointOver_find?] at hnext
    obtain ⟨_, s₄, hstore, hreturn⟩ := Call.ok_of_bind hnext
    cases hreturn
    refine .of_done ho (.mergeEndpoint endpoint hgroup.symm) ?_ hs'
    rw [Mutation.announcements, telling_nil, show s.storage.current.endpoints = some rows from hrows]
    rcases storeOver_ok ho hrows hstore with hs₁ | ⟨hs₁, hsame⟩
    · exact hs₁
    · rw [Option.map_some, hsame, ← show s.storage.current.endpoints = some rows from hrows]
      exact hs₁

theorem upsertRedirect_ok {redirect : Redirect} {stored? : Option Redirect} (hp : s.pending = [])
    (h : upsertRedirect redirect s = (.ok stored?, s')) :
    (∀ stored ∈ stored?, stored = redirect) ∧ s.Ends (.upsertRedirect redirect) stored?.isSome s' := by
  obtain ⟨s₁, hwork, hs'⟩ := atomic_ok h
  obtain ⟨group?, s₂, hfind, hnext⟩ := Call.ok_of_bind hwork
  obtain ⟨hgroup, rfl, ho⟩ := findGroup_ok hp hfind
  cases group? with
  | none =>
    cases hnext
    exact ⟨by simp, .of_idle ho rfl hs'⟩
  | some group =>
    obtain ⟨row?, s₃, hselect, hnext⟩ := Call.ok_of_bind hnext
    obtain ⟨rows, hrows, rfl, rfl, -⟩ := selectKey_ok (s := s.begun) hp hselect
    rw [redirectOver_find?] at hnext
    obtain ⟨_, s₄, hstore, hreturn⟩ := Call.ok_of_bind hnext
    cases hreturn
    refine ⟨by simp, .of_done ho (.upsertRedirect redirect hgroup.symm) ?_ hs'⟩
    rw [Mutation.announcements, telling_nil, show s.storage.current.redirects = some rows from hrows]
    rcases storeOver_ok ho hrows hstore with hs₁ | ⟨hs₁, hsame⟩
    · exact hs₁
    · rw [Option.map_some, hsame, ← show s.storage.current.redirects = some rows from hrows]
      exact hs₁

theorem deleteBusinessCard_ok {card : BusinessCard} {changed : Bool} (hp : s.pending = [])
    (h : deleteBusinessCard card s = (.ok changed, s')) :
    s.Ends (.deleteBusinessCard card) changed s' := by
  obtain ⟨s₁, hwork, hs'⟩ := atomic_ok h
  obtain ⟨card?, s₂, hfind, hnext⟩ := Call.ok_of_bind hwork
  obtain ⟨rfl, ho⟩ := findCard_ok hp hfind
  cases card? with
  | none =>
    cases hnext
    exact .of_idle ho rfl hs'
  | some stored =>
    obtain ⟨_, s₃, hremove, hreturn⟩ := Call.ok_of_bind hnext
    obtain ⟨rows, hrows, rfl⟩ := remove_ok ho hremove
    cases hreturn
    refine .of_done ho (.deleteBusinessCard card) ?_ hs'
    change s.storage.current.businessCards = some rows at hrows
    rw [Mutation.announcements, telling_nil, hrows]
    simp only [Option.map_some, Table.erase, ← decide_not, written, withCurrent]
    rfl

theorem upsertBusinessCard_ok {card : BusinessCard} {stored? : Option BusinessCard}
    (hp : s.pending = []) (h : upsertBusinessCard card s = (.ok stored?, s')) :
    (∀ stored ∈ stored?, stored = card) ∧ s.Ends (.upsertBusinessCard card) stored?.isSome s' := by
  obtain ⟨s₁, hwork, hs'⟩ := atomic_ok h
  obtain ⟨group?, s₂, hfind, hnext⟩ := Call.ok_of_bind hwork
  obtain ⟨hgroup, rfl, ho⟩ := findGroup_ok hp hfind
  cases group? with
  | none =>
    cases hnext
    exact ⟨by simp, .of_idle ho rfl hs'⟩
  | some group =>
    obtain ⟨card?, s₃, hcard, hnext⟩ := Call.ok_of_bind hnext
    obtain ⟨rfl, -⟩ := findCard_ok (s := s.begun) hp hcard
    have hstored (hnext : (do storeCard card; return some card : Call Session _) s.begun =
        (.ok stored?, s₁)) : (∀ stored ∈ stored?, stored = card) ∧
        s.Ends (.upsertBusinessCard card) stored?.isSome s' := by
      obtain ⟨_, s₄, hstore, hreturn⟩ := Call.ok_of_bind hnext
      obtain ⟨rows, hrows, rfl⟩ := store_ok ho hstore
      cases hreturn
      refine ⟨by simp, .of_done ho (.upsertBusinessCard card (CardRow.mk card.participantId
        (StoredEntities.encode card.entities)) rfl hgroup.symm) ?_ hs'⟩
      change s.storage.current.businessCards = some rows at hrows
      rw [Mutation.announcements, telling_nil, hrows]
      rfl
    cases card? with
    | some stored =>
      change (if !stored.holdsAlike card.entities then storeCard card >>= fun _ => pure (some card)
        else pure (some card) : Call Session _) s.begun = _ at hnext
      split at hnext
      · exact hstored hnext
      · cases hnext
        refine ⟨by simp, .of_done ho (.keepBusinessCard card hgroup.symm) ?_ hs'⟩
        rw [Mutation.announcements, telling_nil]
        rfl
    | none =>
      cases hcheck : card.check with
      | error field =>
        rw [hcheck] at hnext
        cases hnext
      | ok _ =>
        rw [hcheck] at hnext
        exact hstored hnext

/-- A mutation that is answered has changed the rows that it is to change, or none. -/
theorem answerMutation_ok {mutation : Mutation} {answer : Json} (hp : s.pending = [])
    (h : Invocation.answerMutation mutation s = (.ok answer, s')) :
    ∃ changed, s.Ends mutation changed s' ∧
      (∀ participantId deprovision, mutation = .deleteGroup participantId deprovision →
        answer = .bool changed) ∧
      ∀ group register, mutation = .createGroup group register → changed = true := by
  cases mutation with
  | deleteGroup participantId deprovision =>
    obtain ⟨changed, s₁, hdelete, hreturn⟩ := Call.ok_of_bind h
    cases hreturn
    exact ⟨changed, deleteGroup_ok hp hdelete, fun _ _ _ => rfl, nofun⟩
  | createGroup group register =>
    obtain ⟨created, s₁, hcreate, hreturn⟩ := Call.ok_of_bind h
    cases hreturn
    exact ⟨true, (createGroup_ok hp hcreate).2, nofun, fun _ _ _ => rfl⟩
  | mergeEndpoint endpoint =>
    obtain ⟨changed, s₁, hmerge, hreturn⟩ := Call.ok_of_bind h
    cases hreturn
    exact ⟨changed, mergeEndpoint_ok hp hmerge, nofun, nofun⟩
  | upsertRedirect redirect =>
    obtain ⟨stored?, s₁, hupsert, hreturn⟩ := Call.ok_of_bind h
    cases hreturn
    exact ⟨stored?.isSome, (upsertRedirect_ok hp hupsert).2, nofun, nofun⟩
  | deleteBusinessCard card =>
    obtain ⟨changed, s₁, hdelete, hreturn⟩ := Call.ok_of_bind h
    cases hreturn
    exact ⟨changed, deleteBusinessCard_ok hp hdelete, nofun, nofun⟩
  | upsertBusinessCard card =>
    obtain ⟨stored?, s₁, hupsert, hreturn⟩ := Call.ok_of_bind h
    cases hreturn
    exact ⟨stored?.isSome, (upsertBusinessCard_ok hp hupsert).2, nofun, nofun⟩

end Session

end ParticipantRegistry
