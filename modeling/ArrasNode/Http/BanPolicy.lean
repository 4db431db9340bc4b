import ArrasNode.Http.UrlRouter

/-! The GET router's ban list over timed runs of requests. A `Server` holds the router and the
clock; between requests the clock moves on and `cleanup` or `getSummary` may run. `BanPolicy` is
the intended behaviour of one source address, stated on its own. -/
namespace Arras4.Node

theorem uint32_toNat_add_one (a : UInt32) : (a + 1).toNat = (a.toNat + 1) % 4294967296 := by
  show (a.toBitVec + 1#32).toNat = _
  rw [BitVec.toNat_add]
  rfl

theorem uint32_le_iff {a b : UInt32} : a ≤ b ↔ a.toNat ≤ b.toNat := by
  rw [UInt32.le_def, BitVec.le_def]; rfl

theorem uint32_eq_iff {a b : UInt32} : a = b ↔ a.toNat = b.toNat :=
  ⟨congrArg _, UInt32.toNat.inj⟩

def Response.refused {α : Type} : Response α → Bool
  | .tooManyRequests => true
  | _ => false

namespace UrlRouter

variable {α : Type}

/-- A request the unmapped handler answers with 404, which `handle` counts against its address. -/
def unknownEndpoint (router : UrlRouter α) (url : String) : Bool :=
  (router.root.handle (split url) []).isNone && decide (router.unmappedCode = httpNotFound)

end UrlRouter

namespace BanList

/-- What one request does to the ban list: `isBanned`, then `track` when the request was let
through and counts. -/
def afterRequest (banList : BanList) (now : Nat) (address : String) (counted : Bool) :
    BanList × Bool :=
  match banList.isBanned now address with
  | (checked, true) => (checked, true)
  | (checked, false) => (if counted then checked.track now address else checked, false)

end BanList

namespace UrlRouter

variable {α : Type}

/-- With a ban list, a request from a known address changes only the ban list, as
`BanList.afterRequest` says, and is refused exactly when that says so. -/
theorem handle_of_banList {router : UrlRouter α} {banList : BanList}
    (installed : router.banList = some banList) (now : Nat) (address url : String) :
    let after := banList.afterRequest now address (router.unknownEndpoint url && address != "")
    (router.handle now (some address) url).1 = { router with banList := some after.1 } ∧
      (router.handle now (some address) url).2.refused = after.2 := by
  intro after
  simp only [after, handle, installed, BanList.afterRequest]
  obtain ⟨checked, banned⟩ := banList.isBanned now address
  cases banned with
  | true => exact ⟨rfl, rfl⟩
  | false =>
    simp only [dispatch, unknownEndpoint]
    split
    · rename_i found
      simp [found, Response.refused]
    · rename_i found
      by_cases named : address = "" <;> by_cases code : router.unmappedCode = httpNotFound <;>
        simp [found, named, code, Response.refused]

/-- A request without a client address is never checked or tracked. -/
theorem handle_of_no_address (router : UrlRouter α) (now : Nat) (url : String) :
    (router.handle now none url).1 = router ∧ (router.handle now none url).2.refused = false := by
  unfold handle dispatch
  split <;> split <;> (try split) <;> (try split_ifs) <;> simp_all [Response.refused]

end UrlRouter

/-- What reaches the GET server: a request, from a client address when it has one, a `cleanup`,
a `getSummary`, or the clock moving on. -/
inductive ServerEvent
  | request (clientAddress : Option String) (url : String)
  | cleanup
  | getSummary
  | tick (nanos : Nat)

/-- The router and the clock's reading. -/
structure Server (α : Type) where
  router : UrlRouter α
  now : Nat

namespace Server

variable {α : Type}

def withBanList (server : Server α) (f : BanList → BanList) : Server α :=
  { server with router := { server.router with banList := server.router.banList.map f } }

def step (server : Server α) : ServerEvent → Server α × Option (Response α)
  | .request clientAddress url =>
    let (router, response) := server.router.handle server.now clientAddress url
    ({ server with router := router }, some response)
  | .cleanup => (server.withBanList (·.cleanup server.now), none)
  | .getSummary => (server.withBanList fun banList => (banList.getSummary server.now).1, none)
  | .tick nanos => ({ server with now := server.now + nanos }, none)

def run (server : Server α) : List ServerEvent → Server α × List (Response α)
  | [] => (server, [])
  | event :: rest =>
    let (last, responses) := (server.step event).1.run rest
    (last, (server.step event).2.toList ++ responses)

end Server

/-! ### The intended behaviour -/

namespace BanPolicy

/-- One source address: nothing counted; `count` unknown-endpoint requests counted, the last at
`last`; or a ban whose first 429 was at `since`. -/
inductive SourceState
  | fresh
  | counting (count last : Nat)
  | banned (since : Nat)
deriving DecidableEq, Repr

variable (countToBan window : Nat)

/-- More than the window has passed since the last counted request, or since the ban began. -/
def lapsed (now : Nat) : SourceState → Bool
  | .fresh => false
  | .counting _ last => decide (now - last > window)
  | .banned since => decide (now - since > window)

/-- A request is refused exactly when `countToBan` requests have been counted, or a ban runs, and
the window has not passed. -/
def refuses (now : Nat) : SourceState → Bool
  | .fresh => false
  | .counting count last => decide (count = countToBan ∧ now - last ≤ window)
  | .banned since => decide (now - since ≤ window)

/-- The state after a request at `now`; `counted` when the unmapped handler answered it with 404.
The first refusal starts the ban's window; a lapsed state starts a fresh count. -/
def afterRequest (now : Nat) (counted : Bool) (state : SourceState) : SourceState :=
  if refuses countToBan window now state then
    match state with
    | .counting _ _ => .banned now
    | other => other
  else
    let current := if lapsed window now state then .fresh else state
    if counted then
      match current with
      | .counting count _ => .counting (count + 1) now
      | _ => .counting 1 now
    else current

/-- The refusals the policy gives over a run, one per request; `unknown` says which paths the
unmapped handler answers with 404. `cleanup` and `getSummary` change nothing. -/
def run (unknown : String → Bool) : (String → SourceState) → Nat → List ServerEvent → List Bool
  | _, _, [] => []
  | states, now, .request (some address) url :: rest =>
    refuses countToBan window now (states address) ::
      run unknown (Function.update states address
        (afterRequest countToBan window now (unknown url && address != "") (states address)))
        now rest
  | states, now, .request none _ :: rest => false :: run unknown states now rest
  | states, now, .cleanup :: rest => run unknown states now rest
  | states, now, .getSummary :: rest => run unknown states now rest
  | states, now, .tick nanos :: rest => run unknown states (now + nanos) rest

/-- How a ban-list entry stands for a source's state at `now`: no entry for a fresh or lapsed
source, the count for a counting one, and the count past the threshold for a banned one. -/
inductive Represents (now : Nat) : Option BanListEntry → SourceState → Prop
  | fresh : Represents now none .fresh
  | lapsed {state : SourceState} : lapsed window now state = true → Represents now none state
  | counting {count : UInt32} {timeStamp n : Nat} : count.toNat = n → 1 ≤ n → n ≤ countToBan →
      Represents now (some ⟨count, timeStamp⟩) (.counting n timeStamp)
  | banned {count : UInt32} {timeStamp : Nat} : count.toNat = countToBan + 1 →
      Represents now (some ⟨count, timeStamp⟩) (.banned timeStamp)

variable {countToBan window}

theorem lapsed_mono {state : SourceState} {now later : Nat} (lapsedNow : lapsed window now state)
    (moved : now ≤ later) : lapsed window later state := by
  cases state <;> simp only [lapsed, decide_eq_true_eq, Bool.false_eq_true] at lapsedNow ⊢ <;> omega

theorem afterRequest_of_lapsed {state : SourceState} {now : Nat} (counted : Bool)
    (lapsedNow : lapsed window now state) :
    refuses countToBan window now state = false ∧
      afterRequest countToBan window now counted state =
        if counted then .counting 1 now else .fresh := by
  have notRefused : refuses countToBan window now state = false := by
    cases state <;> simp only [lapsed, refuses, decide_eq_true_eq, decide_eq_false_iff_not,
      Bool.false_eq_true] at lapsedNow ⊢ <;> omega
  refine ⟨notRefused, ?_⟩
  cases counted <;> simp [afterRequest, notRefused, lapsedNow]

theorem Represents.mono {entry : Option BanListEntry} {state : SourceState} {now later : Nat}
    (represents : Represents countToBan window now entry state) (moved : now ≤ later) :
    Represents countToBan window later entry state := by
  cases represents with
  | fresh => exact .fresh
  | lapsed lapsedNow => exact .lapsed (lapsed_mono lapsedNow moved)
  | counting same low high => exact .counting same low high
  | banned same => exact .banned same

end BanPolicy

namespace BanList

open BanPolicy

variable {countToBan : UInt32} {secToUnBan : Nat}

/-- `cleanup` only erases entries whose source has lapsed. -/
theorem represents_cleanup {banList : BanList} (ordered : banList.entries.Ordered)
    (secToUnBanIs : banList.secToUnBan = secToUnBan) {now : Nat} {address : String}
    {state : SourceState}
    (represents : Represents countToBan.toNat (secToUnBan * nanosPerSecond) now
      (banList.entries.find address) state) :
    Represents countToBan.toNat (secToUnBan * nanosPerSecond) now
      ((banList.cleanup now).entries.find address) state := by
  rw [find_cleanup banList now ordered]
  generalize banList.entries.find address = entry at represents ⊢
  cases represents with
  | fresh => exact .fresh
  | lapsed lapsedNow => exact .lapsed lapsedNow
  | @counting count timeStamp n same low high =>
    by_cases expired : banList.hasExpired now timeStamp
    · simp only [Option.bind, expired, if_true]
      exact .lapsed (by simpa [lapsed, hasExpired, secToUnBanIs] using expired)
    · simpa [expired] using Represents.counting same low high
  | @banned count timeStamp same =>
    by_cases expired : banList.hasExpired now timeStamp
    · simp only [Option.bind, expired, if_true]
      exact .lapsed (by simpa [lapsed, hasExpired, secToUnBanIs] using expired)
    · simpa [expired] using Represents.banned same

theorem isBanned_of_none {banList : BanList} {now : Nat} {address : String}
    (found : banList.entries.find address = none) : banList.isBanned now address = (banList, false) := by
  simp [isBanned, found]

theorem isBanned_of_expired {banList : BanList} {now : Nat} {address : String} {entry : BanListEntry}
    (found : banList.entries.find address = some entry)
    (expired : banList.hasExpired now entry.timeStamp = true) :
    banList.isBanned now address = ({ banList with entries := banList.entries.erase address }, false) := by
  simp [isBanned, found, expired]

theorem isBanned_of_reached {banList : BanList} {now : Nat} {address : String} {entry : BanListEntry}
    (found : banList.entries.find address = some entry)
    (live : banList.hasExpired now entry.timeStamp = false) (reached : entry.count = banList.countToBan) :
    banList.isBanned now address =
      ({ banList with entries := banList.entries.insert address ⟨entry.count + 1, now⟩ },
        decide (entry.count + 1 ≥ banList.countToBan)) := by
  simp [isBanned, found, live, reached]

theorem isBanned_of_below {banList : BanList} {now : Nat} {address : String} {entry : BanListEntry}
    (found : banList.entries.find address = some entry)
    (live : banList.hasExpired now entry.timeStamp = false) (other : entry.count ≠ banList.countToBan) :
    banList.isBanned now address = (banList, decide (entry.count ≥ banList.countToBan)) := by
  simp [isBanned, found, live, other]

theorem find_track_self (banList : BanList) (now : Nat) (address : String) :
    (banList.track now address).entries.find address =
      some ⟨((banList.entries.find address).map (·.count + 1)).getD 1, now⟩ := by
  unfold track; split <;> simp_all

/-- The ban list after one request stands for the policy's state after it, and refuses exactly
when the policy does, as long as the count past the threshold fits in an `unsigned int`. -/
theorem represents_afterRequest {banList : BanList} (countToBanIs : banList.countToBan = countToBan)
    (secToUnBanIs : banList.secToUnBan = secToUnBan) (threshold : 1 ≤ countToBan.toNat)
    (noWrap : countToBan.toNat + 1 < 4294967296) {now : Nat} {address : String} (counted : Bool)
    {state : SourceState}
    (represents : Represents countToBan.toNat (secToUnBan * nanosPerSecond) now
      (banList.entries.find address) state) :
    (banList.afterRequest now address counted).2 =
        refuses countToBan.toNat (secToUnBan * nanosPerSecond) now state ∧
      Represents countToBan.toNat (secToUnBan * nanosPerSecond) now
        ((banList.afterRequest now address counted).1.entries.find address)
        (BanPolicy.afterRequest countToBan.toNat (secToUnBan * nanosPerSecond) now counted state) := by
  -- a request let through with nothing counted for its source: counting starts at one
  have startCount : ∀ checked : BanList, checked.entries.find address = none →
      Represents countToBan.toNat (secToUnBan * nanosPerSecond) now
        ((if counted then checked.track now address else checked).entries.find address)
        (if counted then .counting 1 now else .fresh) := by
    intro checked absent
    cases counted
    · simpa [absent] using Represents.fresh
    · simpa [find_track_self, absent] using
        Represents.counting (show (1 : UInt32).toNat = 1 from rfl) le_rfl threshold
  have expiredIff : ∀ timeStamp, banList.hasExpired now timeStamp =
      decide (now - timeStamp > secToUnBan * nanosPerSecond) := by
    intro timeStamp; simp [hasExpired, secToUnBanIs]
  generalize found : banList.entries.find address = entry at represents
  cases represents with
  | fresh =>
    rw [afterRequest, isBanned_of_none found]
    exact ⟨rfl, by simpa [BanPolicy.afterRequest, refuses, lapsed] using startCount banList found⟩
  | lapsed lapsedNow =>
    obtain ⟨notRefused, after⟩ := afterRequest_of_lapsed counted lapsedNow
    rw [afterRequest, isBanned_of_none found, after, notRefused]
    exact ⟨rfl, startCount banList found⟩
  | @counting count timeStamp n same low high =>
    cases expired : banList.hasExpired now timeStamp with
    | true =>
      have lapsedNow : lapsed (secToUnBan * nanosPerSecond) now (.counting n timeStamp) := by
        simpa [lapsed, expiredIff] using expired
      obtain ⟨notRefused, after⟩ := afterRequest_of_lapsed counted lapsedNow
      rw [afterRequest, isBanned_of_expired found expired, after, notRefused]
      exact ⟨rfl, startCount _ (by simp)⟩
    | false =>
      have early : now - timeStamp ≤ secToUnBan * nanosPerSecond := by
        simpa [expiredIff] using expired
      by_cases reached : count = banList.countToBan
      · -- the first refusal starts the ban
        have atThreshold : n = countToBan.toNat := by rw [← same, reached, countToBanIs]
        have bumped : (count + 1).toNat = countToBan.toNat + 1 := by
          rw [uint32_toNat_add_one, same, atThreshold, Nat.mod_eq_of_lt noWrap]
        rw [afterRequest, isBanned_of_reached found expired reached]
        have refusedNow : decide (count + 1 ≥ banList.countToBan) = true := by
          simp [uint32_le_iff, bumped, countToBanIs]
        rw [refusedNow]
        refine ⟨by simp [refuses, atThreshold, early], ?_⟩
        simp [BanPolicy.afterRequest, refuses, atThreshold, early]
        exact .banned bumped
      · -- below the threshold the source is let through and may count on
        have below : n < countToBan.toNat := by
          have differs : n ≠ countToBan.toNat := fun same' =>
            reached (by rw [countToBanIs, uint32_eq_iff, same, same'])
          omega
        rw [afterRequest, isBanned_of_below found expired reached]
        have letThrough : decide (count ≥ banList.countToBan) = false := by
          simp [uint32_le_iff, same, countToBanIs]; omega
        rw [letThrough]
        have notLapsed : lapsed (secToUnBan * nanosPerSecond) now (.counting n timeStamp) = false := by
          simp [lapsed]; omega
        refine ⟨by simp [refuses]; omega, ?_⟩
        cases counted with
        | false =>
          simp [BanPolicy.afterRequest, refuses, notLapsed, Nat.ne_of_lt below, found]
          exact .counting same low high
        | true =>
          have bumped : (count + 1).toNat = n + 1 := by
            rw [uint32_toNat_add_one, same, Nat.mod_eq_of_lt (by omega)]
          simp [BanPolicy.afterRequest, refuses, notLapsed, Nat.ne_of_lt below, find_track_self, found]
          exact .counting bumped (by omega) (by omega)
  | @banned count timeStamp same =>
    cases expired : banList.hasExpired now timeStamp with
    | true =>
      have lapsedNow : lapsed (secToUnBan * nanosPerSecond) now (.banned timeStamp) := by
        simpa [lapsed, expiredIff] using expired
      obtain ⟨notRefused, after⟩ := afterRequest_of_lapsed counted lapsedNow
      rw [afterRequest, isBanned_of_expired found expired, after, notRefused]
      exact ⟨rfl, startCount _ (by simp)⟩
    | false =>
      have early : now - timeStamp ≤ secToUnBan * nanosPerSecond := by
        simpa [expiredIff] using expired
      have past : count ≠ banList.countToBan := fun reached => by
        have := congrArg UInt32.toNat reached
        rw [same, countToBanIs] at this
        omega
      rw [afterRequest, isBanned_of_below found expired past]
      have stillBanned : decide (count ≥ banList.countToBan) = true := by
        simp [uint32_le_iff, same, countToBanIs]
      rw [stillBanned]
      refine ⟨by simp [refuses, early], ?_⟩
      simp [BanPolicy.afterRequest, refuses, early, found]
      exact .banned same

theorem afterRequest_cases (banList : BanList) (now : Nat) (address : String) (counted : Bool) :
    ∃ checked, banList.isBanned now address = (checked, (banList.afterRequest now address counted).2) ∧
      ((banList.afterRequest now address counted).1 = checked ∨
        (banList.afterRequest now address counted).1 = checked.track now address) := by
  unfold afterRequest
  split <;> rename_i checked found
  · exact ⟨checked, found, .inl rfl⟩
  · exact ⟨checked, found, by cases counted <;> simp⟩

section AfterRequest

variable (banList : BanList) (now : Nat) (address : String) (counted : Bool)

@[simp] theorem afterRequest_countToBan :
    (banList.afterRequest now address counted).1.countToBan = banList.countToBan := by
  obtain ⟨checked, found, after | after⟩ := banList.afterRequest_cases now address counted <;>
    rw [after] <;> simpa [found] using banList.isBanned_countToBan now address

@[simp] theorem afterRequest_secToUnBan :
    (banList.afterRequest now address counted).1.secToUnBan = banList.secToUnBan := by
  obtain ⟨checked, found, after | after⟩ := banList.afterRequest_cases now address counted <;>
    rw [after] <;> simpa [found] using banList.isBanned_secToUnBan now address

theorem find_afterRequest_of_ne {other : String} (distinct : other ≠ address) :
    (banList.afterRequest now address counted).1.entries.find other = banList.entries.find other := by
  obtain ⟨checked, found, after | after⟩ := banList.afterRequest_cases now address counted <;>
    rw [after] <;> simpa [found, find_track_of_ne _ _ distinct] using
      banList.find_isBanned_of_ne now distinct

theorem ordered_afterRequest (ordered : banList.entries.Ordered) :
    (banList.afterRequest now address counted).1.entries.Ordered := by
  have checkedOrdered := banList.ordered_isBanned now ordered address
  obtain ⟨checked, found, after | after⟩ := banList.afterRequest_cases now address counted <;>
    rw [after] <;> rw [found] at checkedOrdered
  · exact checkedOrdered
  · exact checked.ordered_track now checkedOrdered address

end AfterRequest

/-- The ban list stands for the policy state `states` of every address at `now`. -/
structure Follows (countToBan : UInt32) (secToUnBan : Nat) (banList : BanList) (now : Nat)
    (states : String → SourceState) : Prop where
  countToBanIs : banList.countToBan = countToBan
  secToUnBanIs : banList.secToUnBan = secToUnBan
  ordered : banList.entries.Ordered
  represents : ∀ address, Represents countToBan.toNat (secToUnBan * nanosPerSecond) now
    (banList.entries.find address) (states address)

variable {banList : BanList} {now : Nat} {states : String → SourceState}

theorem follows_create (now : Nat) :
    (create countToBan secToUnBan).Follows countToBan secToUnBan now fun _ => .fresh :=
  ⟨rfl, rfl, List.Pairwise.nil, fun _ => .fresh⟩

theorem Follows.mono (follows : banList.Follows countToBan secToUnBan now states) {later : Nat}
    (moved : now ≤ later) : banList.Follows countToBan secToUnBan later states :=
  { follows with represents := fun address => (follows.represents address).mono moved }

theorem Follows.cleanup (follows : banList.Follows countToBan secToUnBan now states) :
    (banList.cleanup now).Follows countToBan secToUnBan now states :=
  ⟨follows.countToBanIs, follows.secToUnBanIs, banList.ordered_cleanup now follows.ordered,
    fun _ => represents_cleanup follows.ordered follows.secToUnBanIs (follows.represents _)⟩

/-- One request changes the policy state of its own address only, as `BanPolicy.afterRequest`
says, and is refused exactly when the policy refuses it. -/
theorem Follows.afterRequest (follows : banList.Follows countToBan secToUnBan now states)
    (threshold : 1 ≤ countToBan.toNat) (noWrap : countToBan.toNat + 1 < 4294967296)
    (address : String) (counted : Bool) :
    (banList.afterRequest now address counted).2 =
        refuses countToBan.toNat (secToUnBan * nanosPerSecond) now (states address) ∧
      (banList.afterRequest now address counted).1.Follows countToBan secToUnBan now
        (Function.update states address (BanPolicy.afterRequest countToBan.toNat
          (secToUnBan * nanosPerSecond) now counted (states address))) := by
  obtain ⟨refused, represents⟩ := represents_afterRequest follows.countToBanIs follows.secToUnBanIs
    threshold noWrap counted (follows.represents address)
  refine ⟨refused, by simp [follows.countToBanIs], by simp [follows.secToUnBanIs],
    banList.ordered_afterRequest now address counted follows.ordered, fun other => ?_⟩
  by_cases same : other = address
  · subst same
    simpa using represents
  · simpa [same, banList.find_afterRequest_of_ne now address counted same] using
      follows.represents other

end BanList

namespace Server

variable {α : Type} {countToBan : UInt32} {secToUnBan : Nat}

@[simp] theorem step_request (server : Server α) (clientAddress : Option String) (url : String) :
    server.step (.request clientAddress url) =
      ({ server with router := (server.router.handle server.now clientAddress url).1 },
        some (server.router.handle server.now clientAddress url).2) := rfl

@[simp] theorem run_nil (server : Server α) : server.run [] = (server, []) := rfl

@[simp] theorem run_cons (server : Server α) (event : ServerEvent) (rest : List ServerEvent) :
    server.run (event :: rest) =
      (((server.step event).1.run rest).1, (server.step event).2.toList ++ ((server.step event).1.run rest).2) :=
  rfl

theorem run_append (server : Server α) (events later : List ServerEvent) :
    server.run (events ++ later) =
      (((server.run events).1.run later).1, (server.run events).2 ++ ((server.run events).1.run later).2) := by
  induction events generalizing server with
  | nil => rfl
  | cons event rest ih => simp [ih]

/-- The server's ban list follows the policy states `states` at the server's clock. -/
def Follows (countToBan : UInt32) (secToUnBan : Nat) (server : Server α)
    (states : String → BanPolicy.SourceState) : Prop :=
  ∃ banList, server.router.banList = some banList ∧
    banList.Follows countToBan secToUnBan server.now states

/-- Over every run, the server refuses exactly the requests the policy refuses. -/
theorem refused_run {server : Server α} {states : String → BanPolicy.SourceState}
    (follows : server.Follows countToBan secToUnBan states) (threshold : 1 ≤ countToBan.toNat)
    (noWrap : countToBan.toNat + 1 < 4294967296) (events : List ServerEvent) :
    (server.run events).2.map Response.refused =
      BanPolicy.run countToBan.toNat (secToUnBan * nanosPerSecond) server.router.unknownEndpoint
        states server.now events := by
  induction events generalizing server states with
  | nil => rfl
  | cons event rest ih =>
    obtain ⟨banList, installed, banListFollows⟩ := follows
    cases event with
    | request clientAddress url =>
      cases clientAddress with
      | none =>
        obtain ⟨same, notRefused⟩ := server.router.handle_of_no_address server.now url
        simp only [run_cons, step_request, same, notRefused, Option.toList, List.singleton_append,
          List.map_cons, BanPolicy.run, List.cons.injEq, true_and]
        exact ih ⟨banList, installed, banListFollows⟩
      | some address =>
        obtain ⟨after, refused⟩ := UrlRouter.handle_of_banList installed server.now address url
        obtain ⟨policyRefuses, nextFollows⟩ := banListFollows.afterRequest threshold noWrap address
          (server.router.unknownEndpoint url && address != "")
        simp only [run_cons, step_request, after, refused, Option.toList, List.singleton_append,
          List.map_cons, BanPolicy.run, List.cons.injEq]
        exact ⟨policyRefuses, ih ⟨_, rfl, nextFollows⟩⟩
    | cleanup =>
      exact ih ⟨_, by simp [step, withBanList, installed], banListFollows.cleanup⟩
    | getSummary =>
      exact ih ⟨_, by simp [step, withBanList, installed], banListFollows.cleanup⟩
    | tick nanos =>
      exact ih ⟨banList, installed, banListFollows.mono (Nat.le_add_right _ _)⟩

end Server

/-- A router with the ban list `BanList(countToBan, secToUnBan)`, fresh, refuses over every timed
run of requests, `cleanup` and `getSummary` calls exactly the requests `BanPolicy` refuses, for
every threshold from one up to the largest whose increment fits in the count. -/
theorem refusals_follow_policy {α : Type} (server : Server α) (countToBan : UInt32) (secToUnBan : Nat)
    (installed : server.router.banList = some (BanList.create countToBan secToUnBan))
    (threshold : 1 ≤ countToBan.toNat) (noWrap : countToBan.toNat + 1 < 4294967296)
    (events : List ServerEvent) :
    (server.run events).2.map Response.refused =
      BanPolicy.run countToBan.toNat (secToUnBan * nanosPerSecond) server.router.unknownEndpoint
        (fun _ => .fresh) server.now events :=
  Server.refused_run ⟨_, installed, BanList.follows_create server.now⟩ threshold noWrap events

/-- The GET server banning at the second miss. -/
def banAtTwo : Server String := ⟨NodeService.getRouter.setBanList (BanList.create 2 300), 0⟩

/-- An address misses twice and is banned, even for a known endpoint; the ban lapses after five
minutes, and a cleanup and a summary come in between. -/
def missTwiceThenLapse : List ServerEvent :=
  [.request (some "10.0.0.1") "admin", .request (some "10.0.0.1") "admin",
    .request (some "10.0.0.1") "sessions", .getSummary, .tick (301 * nanosPerSecond), .cleanup,
    .request (some "10.0.0.1") "sessions"]

theorem refusals_follow_policy_miss_twice :
    banAtTwo.router.banList = some (BanList.create 2 300) ∧ 1 ≤ (2 : UInt32).toNat ∧
      (2 : UInt32).toNat + 1 < 4294967296 ∧
      (banAtTwo.run missTwiceThenLapse).2.map Response.refused =
        BanPolicy.run (2 : UInt32).toNat (300 * nanosPerSecond) banAtTwo.router.unknownEndpoint
          (fun _ => .fresh) banAtTwo.now missTwiceThenLapse :=
  ⟨rfl, by decide, by decide, refusals_follow_policy banAtTwo 2 300 rfl (by decide) (by decide) missTwiceThenLapse⟩

/-! ### The largest threshold -/

namespace Server

variable {α : Type} {root : UrlRouter.Node α} {address url : String} {now : Nat}

theorem step_unknown (unknown : root.handle (UrlRouter.split url) [] = none) (named : address ≠ "")
    {banList checked : BanList} (letThrough : banList.isBanned now address = (checked, false)) :
    Server.step ⟨⟨root, httpNotFound, some banList⟩, now⟩ (.request (some address) url) =
      (⟨⟨root, httpNotFound, some (checked.track now address)⟩, now⟩, some (.unmapped httpNotFound)) := by
  simp [UrlRouter.handle, letThrough, UrlRouter.dispatch, unknown, named]

theorem run_unknown_of_below (unknown : root.handle (UrlRouter.split url) [] = none)
    (named : address ≠ "") (k : Nat) {banList : BanList} {count : UInt32}
    (found : banList.entries.find address = some ⟨count, now⟩)
    (below : count.toNat + k ≤ banList.countToBan.toNat) :
    ∃ last : BanList, last.countToBan = banList.countToBan ∧
      (∃ counted : UInt32, last.entries.find address = some ⟨counted, now⟩ ∧
        counted.toNat = count.toNat + k) ∧
      Server.run ⟨⟨root, httpNotFound, some banList⟩, now⟩ (List.replicate k (.request (some address) url)) =
        (⟨⟨root, httpNotFound, some last⟩, now⟩, List.replicate k (.unmapped httpNotFound)) := by
  induction k generalizing banList count with
  | zero => exact ⟨banList, rfl, ⟨count, found, rfl⟩, rfl⟩
  | succ k ih =>
    have differs : count ≠ banList.countToBan := fun same => by rw [same] at below; omega
    have letThrough : banList.isBanned now address = (banList, false) := by
      rw [BanList.isBanned_of_below found (by simp [BanList.hasExpired]) differs]
      simp [uint32_le_iff]; omega
    have bumped : (count + 1).toNat = count.toNat + 1 := by
      have := banList.countToBan.toNat_lt_size
      rw [uint32_toNat_add_one, Nat.mod_eq_of_lt (by simp only [UInt32.size] at this; omega)]
    obtain ⟨last, sameThreshold, ⟨counted, lastFound, lastCount⟩, ran⟩ :=
      @ih (banList.track now address) (count + 1) (by simp [BanList.find_track_self, found])
        (by simp [bumped]; omega)
    refine ⟨last, by simp [sameThreshold], ⟨counted, lastFound, by omega⟩, ?_⟩
    rw [List.replicate_succ, run_cons, step_unknown unknown named letThrough, ran]
    rfl

end Server

namespace BanPolicy

variable {countToBan window : Nat} {unknown : String → Bool} {address url : String} {now : Nat}

theorem run_counted (counts : unknown url = true) (named : address ≠ "") (k : Nat) {n : Nat}
    {states : String → SourceState} (current : states address = .counting n now)
    (below : n + k ≤ countToBan) (rest : List ServerEvent) :
    run countToBan window unknown states now (List.replicate k (.request (some address) url) ++ rest) =
      List.replicate k false ++
        run countToBan window unknown (Function.update states address (.counting (n + k) now)) now rest := by
  induction k generalizing n states with
  | zero => simp [← current]
  | succ k ih =>
    have differs : n ≠ countToBan := by omega
    have after : afterRequest countToBan window now true (.counting n now) = .counting (n + 1) now := by
      simp [afterRequest, refuses, lapsed, differs]
    have tracked : (address != "") = true := by simpa using named
    rw [List.replicate_succ, List.cons_append, run, current, counts, Bool.true_and, tracked, after,
      @ih (n + 1) _ (by simp) (by omega), Function.update_idem, show n + 1 + k = n + (k + 1) by omega]
    simp [refuses, differs, List.replicate_succ]

end BanPolicy

theorem getRouter_admin_unmapped :
    NodeService.getRouter.root.handle (UrlRouter.split "admin") [] = none := by
  simp only [NodeService.getRouter, UrlRouter.setBanList, UrlRouter.ofRoutes, List.foldl,
    UrlRouter.add, UrlRouter.create, UrlRouter.split_eq_elements]
  decide

theorem replicate_first_middle_last {β : Type} (x : β) :
    List.replicate 4294967296 x = x :: (List.replicate 4294967294 x ++ [x]) := by
  rw [← List.cons_append, ← List.replicate_succ, show [x] = List.replicate 1 x from rfl,
    List.append_replicate_replicate]

/-- With `BanList(4294967295, 300)`, 2^32 requests for `admin` in one instant are all answered 404. -/
theorem largest_threshold_answers_404 :
    ((⟨NodeService.getRouter.setBanList (BanList.create 4294967295 300), 0⟩ : Server String).run
        (List.replicate 4294967296 (.request (some "10.0.0.1") "admin"))).2 =
      List.replicate 4294967296 (.unmapped httpNotFound) := by
  have named : "10.0.0.1" ≠ "" := by decide
  -- the first request starts the count at one
  have first := Server.step_unknown getRouter_admin_unmapped named
    (show (BanList.create 4294967295 300).isBanned 0 "10.0.0.1" = (_, false) from
      BanList.isBanned_of_none rfl)
  -- the next 2^32 - 2 bring it to the threshold
  obtain ⟨last, sameThreshold, ⟨counted, lastFound, lastCount⟩, ran⟩ :=
    Server.run_unknown_of_below getRouter_admin_unmapped named 4294967294
      (show ((BanList.create 4294967295 300).track 0 "10.0.0.1").entries.find "10.0.0.1" =
        some ⟨1, 0⟩ from rfl) (by decide)
  have atThreshold : counted = 4294967295 := uint32_eq_iff.mpr lastCount
  have reached : counted = last.countToBan := by rw [sameThreshold, atThreshold]; rfl
  -- the last finds the count at the threshold, and its increment wraps to zero
  have wrapped : last.isBanned 0 "10.0.0.1" =
      ({ last with entries := last.entries.insert "10.0.0.1" ⟨counted + 1, 0⟩ }, false) := by
    rw [BanList.isBanned_of_reached lastFound (by simp [BanList.hasExpired]) reached, ← reached,
      atThreshold]
    rfl
  show ((⟨⟨NodeService.getRouter.root, httpNotFound, some (BanList.create 4294967295 300)⟩, 0⟩ :
    Server String).run _).2 = _
  rw [replicate_first_middle_last, replicate_first_middle_last, Server.run_cons, first]
  simp only [Server.run_append, ran, Server.run_cons,
    Server.step_unknown getRouter_admin_unmapped named wrapped]
  rfl

/-- With the threshold 4294967295, the policy refuses the 2^32-th request for `admin` in one
instant. -/
theorem policy_refuses_at_largest_threshold :
    BanPolicy.run 4294967295 (300 * nanosPerSecond) NodeService.getRouter.unknownEndpoint
        (fun _ => .fresh) 0 (List.replicate 4294967296 (.request (some "10.0.0.1") "admin")) =
      List.replicate 4294967295 false ++ [true] := by
  have unknown : NodeService.getRouter.unknownEndpoint "admin" = true := by
    simp [UrlRouter.unknownEndpoint, getRouter_admin_unmapped]; rfl
  have started : BanPolicy.afterRequest 4294967295 (300 * nanosPerSecond) 0
      (NodeService.getRouter.unknownEndpoint "admin" && "10.0.0.1" != "") .fresh = .counting 1 0 := by
    rw [unknown]; rfl
  have below : 1 + 4294967294 ≤ 4294967295 := by omega
  rw [replicate_first_middle_last, BanPolicy.run, started,
    @BanPolicy.run_counted _ _ _ _ _ _ unknown (by decide) 4294967294 1 _ (by simp) below,
    show BanPolicy.refuses 4294967295 (300 * nanosPerSecond) 0 .fresh = false from rfl,
    ← List.cons_append, ← List.replicate_succ]
  congr 1

/-- `NodeService`'s GET router with the ban list `BanList(4294967295, 300)`: a source that asks
for an unknown endpoint 2^32 times in one instant is answered 404 every time, while the policy
refuses its last request. The request that finds the count at the threshold increments it past
the largest `unsigned int`, to zero, and `isBanned` then sees a count below the threshold. -/
theorem largest_threshold_never_bans :
    ((⟨NodeService.getRouter.setBanList (BanList.create 4294967295 300), 0⟩ : Server String).run
        (List.replicate 4294967296 (.request (some "10.0.0.1") "admin"))).2 =
      List.replicate 4294967296 (.unmapped httpNotFound) ∧
    BanPolicy.run 4294967295 (300 * nanosPerSecond) NodeService.getRouter.unknownEndpoint
        (fun _ => .fresh) 0 (List.replicate 4294967296 (.request (some "10.0.0.1") "admin")) =
      List.replicate 4294967295 false ++ [true] :=
  ⟨largest_threshold_answers_404, policy_refuses_at_largest_threshold⟩

end Arras4.Node
