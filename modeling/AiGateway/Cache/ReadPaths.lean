import AiGateway.Cache.VectorStore

/- What lookups delete. `ResponseCacheService.getCachedResponse`, `getByTextIdentity` and `knn`
   each read an entry with one command and delete one that must not be served with another, so
   between the two commands the entry may change. The system here is both stores, with every
   lookup and write on them; a step is one Redis command, or a write by something other than
   this code (an earlier version of the schema, an operator), which is how a corrupt entry
   comes to be there.

   `lookups_delete_only_corrupt`: as long as no `HMGET` of a readable entry is rejected and no
   readable reply is written under a key that a lookup is about to delete, what a lookup
   deletes is unreadable at that moment. `lookup_deletes_healthy` has both kinds of run in
   which a lookup deletes a healthy entry. -/
namespace AiGateway

/-! ## The exact cache -/

/-- `SET key text NX`. -/
def setNx (exact : String → Option String) (key text : String) : String → Option String :=
  match exact key with
  | some _ => exact
  | none => Function.update exact key (some text)

theorem setNx_entry {exact : String → Option String} {key text k t : String}
    (h : setNx exact key text k = some t) : exact k = some t ∨ (k = key ∧ t = text) := by
  cases hkey : exact key with
  | some v =>
    simp only [setNx, hkey] at h
    exact .inl h
  | none =>
    simp only [setNx, hkey] at h
    rcases Table.update_cases (P := (· = some t)) h with ⟨-, hold⟩ | ⟨rfl, hnew⟩
    · exact .inl hold
    · exact .inr ⟨rfl, (Option.some.inj hnew).symm⟩

theorem setNx_self {exact : String → Option String} {key text : String} (h : exact key = none) :
    setNx exact key text key = some text := by
  simp [setNx, h]

/-- `getCachedResponse` after `GET`: no text is a miss; one that does not parse, has another
shape or must not be served is deleted. -/
def exactGetPhase (cached : Option String) : GetPhase :=
  match cached with
  | none => .returned none
  | some text =>
    if text = "" then .returned none
    else match readCachedReply text with
      | some r => .returned (some r)
      | none => .deleting

structure ExactGetCall where
  key : String
  phase : GetPhase
  deriving DecidableEq

/-! ## The system -/

structure ReadState where
  exact : String → Option String
  exactGets : List ExactGetCall
  semantic : StoreState

def ReadState.initial : ReadState := ⟨fun _ => none, [], .initial⟩

inductive ReadAction where
  | setExact (key : String) (reply : CachedChatResponse)
  | setExactRejected (key : String)
  | getExact (key : String)
  | getExactRejected (key : String)   -- the adapter answers `null`
  | delExact (i : ℕ)
  | delExactRejected (i : ℕ)          -- the adapter answers `false`
  | loseExact (key : String)          -- expired or evicted
  | putExact (key text : String)      -- written by something other than this code
  | putHash (key : String) (e : Entry)
  | semantic (a : StoreAction)

def readStep (cfg : StoreConfig) (s : ReadState) : ReadAction → Option ReadState
  | .setExact key reply => some { s with exact := setNx s.exact key (writeCachedReply reply) }
  | .setExactRejected _ => some s
  | .getExact key => some { s with exactGets := s.exactGets ++ [⟨key, exactGetPhase (s.exact key)⟩] }
  | .getExactRejected key => some { s with exactGets := s.exactGets ++ [⟨key, exactGetPhase none⟩] }
  | .delExact i =>
    match s.exactGets[i]? with
    | some ⟨key, .deleting⟩ =>
      some { s with
        exact := Function.update s.exact key none
        exactGets := s.exactGets.set i ⟨key, .returned none⟩ }
    | _ => none
  | .delExactRejected i =>
    match s.exactGets[i]? with
    | some ⟨key, .deleting⟩ => some { s with exactGets := s.exactGets.set i ⟨key, .returned none⟩ }
    | _ => none
  | .loseExact key => some { s with exact := Function.update s.exact key none }
  | .putExact key text => some { s with exact := Function.update s.exact key (some text) }
  | .putHash key e =>
    some { s with semantic := { s.semantic with store := Function.update s.semantic.store key (some e) } }
  | .semantic a => (storeStep cfg s.semantic a).map fun semantic => { s with semantic := semantic }

/-! ## Entries -/

/-- An entry of one of the two caches, by its key. -/
inductive EntryRef where
  | exact (key : String)
  | hash (key : String)
  deriving DecidableEq, Repr

def readable (text : String) : Bool := (readCachedReply text).isSome

def hashHealthy (store : Store) (key : String) : Bool := ((store key).bind Entry.reply).any readable

/-- The entry is there, parses, has the schema's shape and may be served. -/
def healthy (s : ReadState) : EntryRef → Bool
  | .exact key => (s.exact key).any readable
  | .hash key => hashHealthy s.semantic.store key

/-- The entry that a lookup deletes by this command. -/
def deletedEntry (cfg : StoreConfig) (s : ReadState) : ReadAction → Option EntryRef
  | .delExact i =>
    match s.exactGets[i]? with
    | some ⟨key, .deleting⟩ => some (.exact key)
    | _ => none
  | .semantic (.getDel i) =>
    match s.semantic.gets[i]? with
    | some ⟨identity, .deleting⟩ => some (.hash (entryKey cfg identity))
    | _ => none
  | .semantic (.knnDel i) =>
    match s.semantic.knns[i]? with
    | some ⟨_, _, key :: _⟩ => some (.hash key)
    | _ => none
  | _ => none

/-- A lookup of the semantic cache has the deletion of the key before it. -/
def HashPending (cfg : StoreConfig) (s : StoreState) (key : String) : Prop :=
  (∃ g ∈ s.gets, g.phase = .deleting ∧ entryKey cfg g.identity = key) ∨
    ∃ q ∈ s.knns, key ∈ q.corruptKeys

def Pending (cfg : StoreConfig) (s : ReadState) : EntryRef → Prop
  | .exact key => ∃ g ∈ s.exactGets, g.phase = .deleting ∧ g.key = key
  | .hash key => HashPending cfg s.semantic key

/-- The entry that a command of an upsert gives a readable reply. -/
def claimsReadable (cfg : StoreConfig) (s : StoreState) : StoreAction → Option String
  | .hsetnx i =>
    match s.upserts[i]? with
    | some ⟨input, .claiming, _⟩ =>
      if (hsetnx s.store (entryKey cfg input.identity) (writeCachedReply input.reply)).2 &&
          readable (writeCachedReply input.reply) then some (entryKey cfg input.identity)
      else none
    | _ => none
  | _ => none

/-- The entry that a command gives a readable reply. -/
def putsReadable (cfg : StoreConfig) (s : ReadState) : ReadAction → Option EntryRef
  | .setExact key reply =>
    if (s.exact key).isNone && readable (writeCachedReply reply) then some (.exact key) else none
  | .putExact key text => if readable text then some (.exact key) else none
  | .putHash key e => if e.reply.any readable then some (.hash key) else none
  | .semantic a => (claimsReadable cfg s.semantic a).map .hash
  | _ => none

/-- No readable reply is written under a key that is about to be deleted, and no `HMGET` of a
readable entry is rejected. -/
def SparesHealthy (cfg : StoreConfig) (s : ReadState) (a : ReadAction) : Prop :=
  (∀ target, putsReadable cfg s a = some target → ¬ Pending cfg s target) ∧
    ∀ identity, a = .semantic (.hmgetRejected identity) →
      hashHealthy s.semantic.store (entryKey cfg identity) = false

/-! ## What a lookup decides to delete -/

variable {cfg : StoreConfig}

theorem exactGetPhase_deleting {cached : Option String} (h : exactGetPhase cached = .deleting) :
    cached.any readable = false := by
  unfold exactGetPhase at h
  split at h
  · cases h
  · next text =>
    split at h
    · cases h
    · split at h
      · cases h
      · next hread => simp [readable, hread]

theorem getPhase_deleting {e : Option Entry} (h : getPhase e = .deleting) :
    (e.bind Entry.reply).any readable = false := by
  unfold getPhase at h
  split at h
  · next text fields ht hf =>
    split at h
    · cases h
    · split at h
      · cases h
      · next hread => simp [ht, readable, hread]
  · cases h

/-- A document that `parseKnnHits` calls corrupt has no readable reply. -/
theorem mem_corruptKeys {store : Store} {docs : List SearchDoc} {key : String}
    (h : key ∈ (parseKnnHits store docs).2) : hashHealthy store key = false := by
  induction docs with
  | nil => simp [parseKnnHits] at h
  | cons doc docs ih =>
    simp only [parseKnnHits] at h
    split at h
    · next hnone =>
      split at h
      · exact ih h
      · rcases List.mem_cons.mp h with rfl | h
        · unfold hashHealthy
          cases hreply : (store doc.key).bind Entry.reply with
          | none => rfl
          | some text =>
            -- an empty text does not parse either
            by_cases htext : text = ""
            · subst htext
              rfl
            · simpa [hreply, Option.filter, htext, readable] using hnone
        · exact ih h
    · split at h
      · exact ih h
      · exact ih h

/-! ## One command -/

section Commands
variable {s s' : StoreState} {a : StoreAction} {key : String}

theorem HashPending.frame (hgets : s'.gets = s.gets) (hknns : s'.knns = s.knns)
    (h : HashPending cfg s' key) : HashPending cfg s key := by
  unfold HashPending at *
  rw [hgets, hknns] at h
  exact h

/-- A lookup by text that starts: it may itself decide to delete. -/
theorem HashPending.ofGet {g : GetCall}
    (h : HashPending cfg { s with gets := s.gets ++ [g] } key) :
    HashPending cfg s key ∨ (g.phase = .deleting ∧ entryKey cfg g.identity = key) := by
  rcases h with ⟨g', hg', hphase, hkey⟩ | h
  · rcases List.mem_append.mp hg' with hg' | hg'
    · exact .inl (.inl ⟨g', hg', hphase, hkey⟩)
    · rw [List.mem_singleton] at hg'
      subst hg'
      exact .inr ⟨hphase, hkey⟩
  · exact .inl (.inr h)

theorem HashPending.ofSetGet {i : ℕ} {identity : EntryIdentity} {store : Store}
    (h : HashPending cfg { s.setGet i ⟨identity, .returned none⟩ with store := store } key) :
    HashPending cfg s key := by
  rcases h with ⟨g, hg, hphase, hkey⟩ | h
  · rcases List.mem_or_eq_of_mem_set hg with hg | rfl
    · exact .inl ⟨g, hg, hphase, hkey⟩
    · cases hphase
  · exact .inr h

theorem HashPending.ofSetKnn {i : ℕ} {input : KnnInput} {hits : List VectorSearchHit} {k : String}
    {keys : List String} {store : Store} (hi : s.knns[i]? = some ⟨input, hits, k :: keys⟩)
    (h : HashPending cfg { s.setKnn i ⟨input, hits, keys⟩ with store := store } key) :
    HashPending cfg s key := by
  rcases h with h | ⟨q, hq, hkey⟩
  · exact .inl h
  · rcases List.mem_or_eq_of_mem_set hq with hq | rfl
    · exact .inr ⟨q, hq, hkey⟩
    · exact .inr ⟨_, List.mem_of_getElem? hi, List.mem_cons_of_mem k hkey⟩

/-- A key that is to be deleted was so before, has just been found unreadable, or could not be
read at all. -/
theorem storeStep_hashPending (h : storeStep cfg s a = some s') (hp : HashPending cfg s' key) :
    HashPending cfg s key ∨ (hashHealthy s.store key = false ∧ claimsReadable cfg s a = none) ∨
      ∃ identity, a = .hmgetRejected identity ∧ entryKey cfg identity = key := by
  cases storeStep_transition h with
  | start input phase hphase => exact .inl (hp.frame rfl rfl)
  | claim i input retried hi phase => exact .inl (hp.frame rfl rfl)
  | move _ i u v hi hinput hphase => exact .inl (hp.frame rfl rfl)
  | complete i u v hi hinput hpast hended => exact .inl (hp.frame rfl rfl)
  | get identity =>
    rcases hp.ofGet with hp | ⟨hphase, rfl⟩
    · exact .inl hp
    · exact .inr (.inl ⟨getPhase_deleting hphase, rfl⟩)
  | getRejected identity =>
    rcases hp.ofGet with hp | ⟨-, hkey⟩
    · exact .inl hp
    · exact .inr (.inr ⟨identity, rfl, hkey⟩)
  | getDel i identity hi => exact .inl hp.ofSetGet
  | getDelRejected i identity hi => exact .inl hp.ofSetGet
  | search input docs hdocs =>
    rcases hp with hp | ⟨q, hq, hkey⟩
    · exact .inl (.inl hp)
    · rcases List.mem_append.mp hq with hq | hq
      · exact .inl (.inr ⟨q, hq, hkey⟩)
      · obtain rfl := List.mem_singleton.mp hq
        exact .inr (.inl ⟨mem_corruptKeys hkey, rfl⟩)
  | knnDel i input hits k keys hi => exact .inl (hp.ofSetKnn hi)
  | knnDelRejected i input hits k keys hi => exact .inl (hp.ofSetKnn hi)
  | lose _ k ha => exact .inl (hp.frame rfl rfl)

theorem hashHealthy_update {store : Store} {k : String} {e : Option Entry}
    (h : hashHealthy (Function.update store k e) key = true) :
    hashHealthy store key = true ∨ (key = k ∧ (e.bind Entry.reply).any readable = true) := by
  rcases Table.update_cases (P := fun e : Option Entry => (e.bind Entry.reply).any readable = true) h with
    ⟨-, hold⟩ | hnew
  · exact .inl hold
  · exact .inr hnew

theorem hashHealthy_del {store : Store} {k : String} (h : hashHealthy (del store k) key = true) :
    hashHealthy store key = true := by
  rcases hashHealthy_update h with hold | ⟨-, hnone⟩
  · exact hold
  · cases hnone

/-- `MULTI` leaves the reply as it is. -/
theorem hashHealthy_hsetExpire {store : Store} {k : String} {fields : MetaFields} {ttl : ℕ} :
    hashHealthy (hsetExpire store k fields ttl) key = hashHealthy store key := by
  unfold hashHealthy hsetExpire
  by_cases hk : key = k
  · subst hk
    rw [Function.update_self]
    rfl
  · rw [Function.update_of_ne hk]

theorem hashHealthy_hsetnx {store : Store} {k text : String}
    (h : hashHealthy (hsetnx store k text).1 key = true) :
    hashHealthy store key = true ∨ (key = k ∧ (hsetnx store k text).2 = true ∧ readable text = true) := by
  unfold hsetnx at *
  split at h
  · rcases hashHealthy_update h with hold | ⟨hk, hnew⟩
    · exact .inl hold
    · exact .inr ⟨hk, rfl, hnew⟩
  · split at h
    · rcases hashHealthy_update h with hold | ⟨hk, hnew⟩
      · exact .inl hold
      · exact .inr ⟨hk, rfl, hnew⟩
    · exact .inl h

/-- A reply becomes readable by the `HSETNX` that writes it, and by nothing else. -/
theorem storeStep_hashHealthy (h : storeStep cfg s a = some s') (hh : hashHealthy s'.store key = true) :
    hashHealthy s.store key = true ∨ claimsReadable cfg s a = some key := by
  cases storeStep_transition h with
  | start input phase hphase => exact .inl hh
  | claim i input retried hi phase =>
    rcases hashHealthy_hsetnx hh with hh | ⟨rfl, hset, hread⟩
    · exact .inl hh
    · exact .inr (by simp [claimsReadable, hi, hset, hread])
  | move _ i u v hi hinput hphase => exact .inl hh
  | complete i u v hi hinput hpast hended => exact .inl (hashHealthy_hsetExpire.symm.trans hh)
  | get identity => exact .inl hh
  | getRejected identity => exact .inl hh
  | getDel i identity hi => exact .inl (hashHealthy_del hh)
  | getDelRejected i identity hi => exact .inl hh
  | search input docs hdocs => exact .inl hh
  | knnDel i input hits k keys hi => exact .inl (hashHealthy_del hh)
  | knnDelRejected i input hits k keys hi => exact .inl hh
  | lose _ k ha => exact .inl (hashHealthy_del hh)

end Commands

/-! ## What lookups delete -/

/-- Every entry that a lookup is about to delete is unreadable. -/
def JudgedInv (cfg : StoreConfig) (s : ReadState) : Prop :=
  ∀ target, Pending cfg s target → healthy s target = false

section Deletions
variable {s s' : ReadState} {a : ReadAction} {target : EntryRef}

/-- The exact cache after a write or a deletion. -/
theorem healthy_update {key : String} {value : Option String} {gets : List ExactGetCall}
    (hh : healthy { s with exact := Function.update s.exact key value, exactGets := gets } target = true) :
    healthy s target = true ∨ (target = .exact key ∧ value.any readable = true) := by
  cases target with
  | hash k => exact .inl hh
  | exact k =>
    rcases Table.update_cases (P := fun text : Option String => text.any readable = true) hh with
      ⟨-, hold⟩ | ⟨rfl, hnew⟩
    · exact .inl hold
    · exact .inr ⟨rfl, hnew⟩

theorem healthy_forget {key : String} {gets : List ExactGetCall}
    (hh : healthy { s with exact := Function.update s.exact key none, exactGets := gets } target = true) :
    healthy s target = true := by
  rcases healthy_update hh with hold | ⟨-, hnone⟩
  · exact hold
  · cases hnone

/-- A step makes an entry readable only by writing it. -/
theorem readStep_healthy (h : readStep cfg s a = some s') (hh : healthy s' target = true) :
    healthy s target = true ∨ putsReadable cfg s a = some target := by
  cases a with
  | setExact key reply =>
    cases h
    cases hkey : s.exact key with
    | some text =>
      -- the key is taken
      simp only [setNx, hkey] at hh
      exact .inl hh
    | none =>
      simp only [setNx, hkey] at hh
      rcases healthy_update hh with hold | ⟨rfl, hnew⟩
      · exact .inl hold
      · exact .inr (by simp only [putsReadable, hkey]; simpa using hnew)
  | setExactRejected key | getExact key | getExactRejected key => cases h; exact .inl hh
  | delExact i =>
    simp only [readStep] at h
    split at h
    · cases h; exact .inl (healthy_forget hh)
    · cases h
  | delExactRejected i =>
    simp only [readStep] at h
    split at h
    · cases h; exact .inl hh
    · cases h
  | loseExact key => cases h; exact .inl (healthy_forget hh)
  | putExact key text =>
    cases h
    rcases healthy_update hh with hold | ⟨rfl, hnew⟩
    · exact .inl hold
    · have hnew : readable text = true := hnew
      exact .inr (by simp [putsReadable, hnew])
  | putHash key e =>
    cases h
    cases target with
    | exact k => exact .inl hh
    | hash k =>
      rcases hashHealthy_update hh with hold | ⟨rfl, hnew⟩
      · exact .inl hold
      · have hnew : e.reply.any readable = true := hnew
        exact .inr (by simp [putsReadable, hnew])
  | semantic a =>
    obtain ⟨semantic, hstep, rfl⟩ := Option.map_eq_some_iff.mp h
    cases target with
    | exact k => exact .inl hh
    | hash k =>
      rcases storeStep_hashHealthy hstep hh with hh | hclaim
      · exact .inl hh
      · exact .inr (by simp [putsReadable, hclaim])

/-- A lookup of the exact cache that starts: it may itself decide to delete. -/
theorem Pending.ofStart {key : String} {phase : GetPhase}
    (hphase : phase = .deleting → (s.exact key).any readable = false)
    (hp : Pending cfg { s with exactGets := s.exactGets ++ [⟨key, phase⟩] } target) :
    Pending cfg s target ∨ healthy s target = false := by
  cases target with
  | hash k => exact .inl hp
  | exact k =>
    obtain ⟨g, hg, hdel, rfl⟩ := hp
    rcases List.mem_append.mp hg with hg | hg
    · exact .inl ⟨g, hg, hdel, rfl⟩
    · rw [List.mem_singleton] at hg
      subst hg
      exact .inr (hphase hdel)

theorem Pending.ofEnd {i : ℕ} {key : String} {exact : String → Option String}
    (hp : Pending cfg { s with exact := exact, exactGets := s.exactGets.set i ⟨key, .returned none⟩ } target) :
    Pending cfg s target := by
  cases target with
  | hash k => exact hp
  | exact k =>
    obtain ⟨g, hg, hdel, rfl⟩ := hp
    rcases List.mem_or_eq_of_mem_set hg with hg | rfl
    · exact ⟨g, hg, hdel, rfl⟩
    · cases hdel

theorem Pending.ofWrite {exact : String → Option String} {store : Store}
    (hp : Pending cfg { s with exact := exact, semantic := { s.semantic with store := store } } target) :
    Pending cfg s target := by
  cases target with
  | hash k => exact hp.frame rfl rfl
  | exact k => exact hp

/-- A lookup decides to delete what it could not read. -/
theorem readStep_pending (h : readStep cfg s a = some s') (hp : Pending cfg s' target) :
    Pending cfg s target ∨ (healthy s target = false ∧ putsReadable cfg s a = none) ∨
      ∃ identity, a = .semantic (.hmgetRejected identity) ∧ target = .hash (entryKey cfg identity) := by
  cases a with
  | setExact key reply | loseExact key | putExact key text => cases h; exact .inl hp.ofWrite
  | putHash key e => cases h; exact .inl hp.ofWrite
  | setExactRejected key => cases h; exact .inl hp
  | getExact key =>
    cases h
    rcases hp.ofStart exactGetPhase_deleting with hp | hh
    · exact .inl hp
    · exact .inr (.inl ⟨hh, rfl⟩)
  | getExactRejected key =>
    cases h
    rcases hp.ofStart (fun hdel => by cases hdel) with hp | hh
    · exact .inl hp
    · exact .inr (.inl ⟨hh, rfl⟩)
  | delExact i | delExactRejected i =>
    simp only [readStep] at h
    split at h
    · cases h; exact .inl hp.ofEnd
    · cases h
  -- The exact entries and the hashes have no key in common.
  | semantic a =>
    obtain ⟨semantic, hstep, rfl⟩ := Option.map_eq_some_iff.mp h
    cases target with
    | exact k => exact .inl hp
    | hash k =>
      rcases storeStep_hashPending hstep hp with hp | ⟨hh, hclaim⟩ | ⟨identity, rfl, rfl⟩
      · exact .inl hp
      · exact .inr (.inl ⟨hh, by simp [putsReadable, hclaim]⟩)
      · exact .inr (.inr ⟨identity, rfl, rfl⟩)

/-- The entries that a lookup is about to delete stay unreadable until it does. -/
theorem readStep_judged (hinv : JudgedInv cfg s) (hspare : SparesHealthy cfg s a)
    (h : readStep cfg s a = some s') : JudgedInv cfg s' := by
  intro target hp
  have hbefore : healthy s target = false ∧ putsReadable cfg s a ≠ some target := by
    rcases readStep_pending h hp with hp | ⟨hh, hput⟩ | ⟨identity, rfl, rfl⟩
    · exact ⟨hinv target hp, fun hput => hspare.1 target hput hp⟩
    · exact ⟨hh, by simp [hput]⟩
    · exact ⟨hspare.2 identity rfl, by simp [putsReadable, claimsReadable]⟩
  by_contra hafter
  rw [Bool.not_eq_false] at hafter
  rcases readStep_healthy h hafter with hh | hput
  · rw [hbefore.1] at hh
    cases hh
  · exact hbefore.2 hput

theorem pending_of_deletedEntry (h : deletedEntry cfg s a = some target) : Pending cfg s target := by
  unfold deletedEntry at h
  split at h
  · split at h
    · next hi => cases h; exact ⟨_, List.mem_of_getElem? hi, rfl, rfl⟩
    · cases h
  · split at h
    · next hi => cases h; exact .inl ⟨_, List.mem_of_getElem? hi, rfl, rfl⟩
    · cases h
  · split at h
    · next hi => cases h; exact .inr ⟨_, List.mem_of_getElem? hi, List.mem_cons_self⟩
    · cases h
  · cases h

end Deletions

theorem lookups_delete_only_corrupt (cfg : StoreConfig) (acts : List ReadAction) (s : ReadState)
    (halong : Runs.Along (readStep cfg) (SparesHealthy cfg) .initial acts)
    (hrun : Runs.run (readStep cfg) .initial acts = some s) :
    ∀ a target, deletedEntry cfg s a = some target → healthy s target = false := by
  have hinit : JudgedInv cfg .initial := by
    intro target _
    cases target <;> rfl
  have hinv : JudgedInv cfg s :=
    Runs.run_invariant_along (fun _ _ _ hi hs h => readStep_judged hi hs h) hinit halong hrun
  intro a target hdel
  exact hinv target (pending_of_deletedEntry hdel)

/-- A text that does not parse is found, and deleted. -/
theorem lookups_delete_only_corrupt_unparseable :
    ∃ s, Runs.run (readStep plainConfig) .initial [.putExact "k" "not JSON", .getExact "k"] = some s ∧
      deletedEntry plainConfig s (.delExact 0) = some (.exact "k") ∧ healthy s (.exact "k") = false := by
  obtain ⟨s, hs⟩ : ∃ s, Runs.run (readStep plainConfig) .initial [.putExact "k" "not JSON", .getExact "k"] =
      some s := ⟨_, rfl⟩
  have halong : Runs.Along (readStep plainConfig) (SparesHealthy plainConfig) .initial
      [.putExact "k" "not JSON", .getExact "k"] := by
    refine ⟨⟨?_, ?_⟩, ⟨?_, ?_⟩, trivial⟩
    · intro target hput
      have hnone : putsReadable plainConfig .initial (.putExact "k" "not JSON") = none := rfl
      rw [hnone] at hput
      cases hput
    · intro identity h
      cases h
    · intro target hput
      cases hput
    · intro identity h
      cases h
  have hdel : deletedEntry plainConfig s (.delExact 0) = some (.exact "k") := by
    cases hs
    rfl
  exact ⟨s, hs, hdel, lookups_delete_only_corrupt _ _ s halong hs _ _ hdel⟩

theorem readable_write {r : CachedChatResponse} (h : (r.counts && !isUnservableCachedReply r) = true) :
    readable (writeCachedReply r) = true := by
  rw [readable, readCachedReply_write, if_pos h]
  rfl

/-- Two runs in which a lookup deletes a healthy entry: the `HMGET` of a complete hash is
rejected and the `DEL` after it is not; and two lookups find the same corrupt text, one deletes
it, a reply is stored, and the other deletes that. -/
theorem lookup_deletes_healthy :
    (∃ s, Runs.run (readStep plainConfig) .initial
        [.semantic (.upsert capitalUpsert), .semantic (.hsetnx 0), .semantic (.multi 0),
          .semantic (.hmgetRejected capitalUpsert.identity)] = some s ∧
      deletedEntry plainConfig s (.semantic (.getDel 0)) =
        some (.hash (entryKey plainConfig capitalUpsert.identity)) ∧
      healthy s (.hash (entryKey plainConfig capitalUpsert.identity)) = true) ∧
    ∃ s, Runs.run (readStep plainConfig) .initial
        [.putExact "k" "not JSON", .getExact "k", .getExact "k", .delExact 0, .setExact "k" capitalUpsert.reply] =
          some s ∧
      deletedEntry plainConfig s (.delExact 1) = some (.exact "k") ∧ healthy s (.exact "k") = true := by
  have hread : readable (writeCachedReply capitalUpsert.reply) = true := readable_write (by decide)
  refine ⟨⟨_, rfl, rfl, ?_⟩, ⟨_, rfl, rfl, ?_⟩⟩
  · show ((some (writeCachedReply capitalUpsert.reply)).any readable) = true
    rw [Option.any_some, hread]
  · show ((some (writeCachedReply capitalUpsert.reply)).any readable) = true
    rw [Option.any_some, hread]

end AiGateway
