import SqlRunner.Proofs.HandedOut

/-!
# Errands — a handle in the hands of a client

A client takes one handle and runs errands: each asks something of what it holds under a name, and
may hold the answer under another. How often each kind of thing was asked to close is read off the
errands (`Client.closesAsked`), and how often the raw cursor was closed off the journal.

The two go together for every sequence of errands (`Client.serveAll_life`): once for the handle, if
it was asked at all, and once for every time that a raw cursor was asked. The invariant is
`Bench.Tended`: one handle at most is held, under its own name, and whether it is closed is known.
-/

set_option autoImplicit false

namespace SqlRunner

variable {α β : Type} {shape : Shape}

/-- A request of what is held under a name, and the name under which the answer is to be held. -/
structure Errand where
  target : String
  request : Request
  keepAs : Option String := none

namespace Bench

/-! ## Running errands -/

/-- The bench with the answer to a request held, if there is one and it is to be held. -/
def keep (bench : Bench) (keepAs : Option String) :
    Option (Except Failure Reply) → Bench
  | some (.ok reply) =>
    match keepAs with
    | some name => bench.hold name (.ofReply reply)
    | none => bench
  | _ => bench

/-- Runs an errand. -/
def serve (bench : Bench) (errand : Errand) : Session Bench := do
  let (answer, after) ← bench.ask errand.target errand.request
  return after.keep errand.keepAs answer

/-- Whether an errand asks something of a kind to close. -/
def asksToClose (kind : Held → Bool) (bench : Bench) (errand : Errand) : Bool :=
  errand.request.isClose && (bench.find? errand.target).any kind

theorem find?_hold_self (bench : Bench) (name : String) (held : Held) :
    (bench.hold name held).find? name = some held := Entries.get?_put_self _ _ _

theorem find?_hold_of_ne (bench : Bench) {name other : String} (held : Held) (h : other ≠ name) :
    (bench.hold name held).find? other = bench.find? other := Entries.get?_put_of_ne _ _ h

/-! ### One handle -/

/-- A bench with one handle at most, which is held under the name and closed or not. -/
def Tended (bench : Bench) (name : String) (calls closed : Bool) : Prop :=
  ∀ other held, bench.find? other = some held →
    held.Proper calls ∧ ∀ was, held.closed? = some was → other = name ∧ was = closed

theorem Tended.hold {bench : Bench} {name : String} {calls closed : Bool}
    (h : bench.Tended name calls closed) {other : String} {held : Held}
    (proper : held.Proper calls)
    (own : ∀ was, held.closed? = some was → other = name ∧ was = closed) :
    (bench.hold other held).Tended name calls closed := by
  intro another found hf
  by_cases same : another = other
  · subst same
    rw [find?_hold_self] at hf
    cases hf
    exact ⟨proper, own⟩
  · rw [find?_hold_of_ne _ _ same] at hf
    exact h another found hf

/-- An answer is no handle, so it can be held anywhere. -/
theorem Tended.keep {bench : Bench} {name : String} {calls closed : Bool}
    (h : bench.Tended name calls closed) (keepAs : Option String)
    {answer : Option (Except Failure Reply)}
    (good : ∀ reply, answer = some (.ok reply) → (Held.ofReply reply).Proper calls) :
    (bench.keep keepAs answer).Tended name calls closed := by
  unfold Bench.keep
  split
  case h_1 reply =>
    split
    case h_1 other =>
      refine h.hold (good reply rfl) fun was handle => ?_
      cases reply <;> cases handle
    case h_2 => exact h
  case h_2 => exact h

instance local_ask (bench : Bench) (name : String) (request : Request) :
    (bench.ask name request).Local := by
  unfold ask
  split <;> infer_instance

instance local_serve (bench : Bench) (errand : Errand) : (bench.serve errand).Local :=
  .bind inferInstance fun _ => inferInstance

theorem ask_account_none {bench : Bench} {target : String} (h : bench.find? target = none)
    (request : Request) (b : Behavior) :
    (bench.ask target request).account b = ⟨.ok (none, bench), [], []⟩ := by
  rw [ask, h]
  exact Session.account_pure _ b

theorem ask_account_some {bench : Bench} {target : String} {held left : Held}
    (h : bench.find? target = some held) {request : Request} {b : Behavior}
    {reply : Except Failure Reply}
    (answered : ((held.ask request).account b).outcome = .ok (reply, left)) :
    ∃ released, (bench.ask target request).account b =
      ⟨.ok (some reply, { bench.hold target left with released := released }),
        ((held.ask request).account b).entries, ((held.ask request).account b).events⟩ := by
  refine ⟨if held.goesThroughRelease request then bench.released + 1 else bench.released, ?_⟩
  rw [ask, h]
  refine (Session.account_bind _ _ b).trans ?_
  rw [Account.bind_of_ok answered, Session.account_pure, List.append_nil, List.append_nil]

/-- What was asked is held where it was, closed if it was a handle that was asked to close. -/
theorem Tended.hold_left {bench : Bench} {name : String} {calls closed : Bool}
    (h : bench.Tended name calls closed) {target : String} {held left : Held} {close : Bool}
    (found : bench.find? target = some held) (proper : left.Proper calls)
    (was : left.closed? = held.closed?.map (· || close)) :
    (bench.hold target left).Tended name calls (closed || close && held.isHandle) := by
  intro other there hf
  by_cases same : other = target
  · subst same
    rw [find?_hold_self] at hf
    cases hf
    refine ⟨proper, fun now handle => ?_⟩
    rw [was] at handle
    cases hc : held.closed? with
    | none =>
      rw [hc] at handle
      cases handle
    | some before =>
      obtain ⟨own, rfl⟩ := (h other held found).2 before hc
      rw [hc] at handle
      refine ⟨own, ?_⟩
      rw [Held.isHandle, hc, Option.isSome_some, Bool.and_true]
      exact (Option.some.inj handle).symm
  · rw [find?_hold_of_ne _ _ same] at hf
    obtain ⟨proper', own⟩ := h other there hf
    refine ⟨proper', fun now handle => ?_⟩
    obtain ⟨rfl, rfl⟩ := own now handle
    refine ⟨rfl, ?_⟩
    -- the handle is held under its own name, so what was asked under another is none
    cases hc : held.closed? with
    | none => rw [Held.isHandle, hc, Option.isSome_none, Bool.and_false, Bool.or_false]
    | some before => exact absurd ((h target held found).2 before hc).1.symm same

/-- What a request closes, by what was asked. -/
theorem closes_eq_replicate {bench : Bench} {name : String} {calls closed : Bool}
    (h : bench.Tended name calls closed) {target : String} {held : Held}
    (found : bench.find? target = some held) (request : Request) :
    (if held.closes request then [CursorEvent.closed] else []) = List.replicate
      ((!closed && (request.isClose && held.isHandle)).toNat +
        (request.isClose && held.isRawCursor).toNat) .closed := by
  rw [Held.closes, Held.isHandle]
  cases hc : held.closed? with
  | none => cases request.isClose <;> cases held.isRawCursor <;> cases closed <;> rfl
  | some before =>
    obtain ⟨-, rfl⟩ := (h target held found).2 before hc
    rw [Held.isRawCursor_of_handle hc]
    cases request.isClose <;> cases before <;> rfl

/-- **One errand**: the raw cursor is closed by the first request to close its handle, and by every
    request to close a raw cursor. -/
theorem serve_account {bench : Bench} {name : String} {calls closed : Bool}
    (h : bench.Tended name calls closed) (errand : Errand) (b : Behavior) :
    ∃ after entries events, (bench.serve errand).account b = ⟨.ok after, entries, events⟩ ∧
      after.Tended name calls (closed || bench.asksToClose Held.isHandle errand) ∧
      cursorLife entries = List.replicate
        ((!closed && bench.asksToClose Held.isHandle errand).toNat +
          (bench.asksToClose Held.isRawCursor errand).toNat) .closed ∧
      (bench.asksToClose Held.isRawCursor errand = true → calls = true) := by
  obtain ⟨target, request, keepAs⟩ := errand
  rw [serve, Session.account_bind]
  unfold asksToClose
  cases hf : bench.find? target with
  | none =>
    rw [ask_account_none hf, Account.ok_bind, Session.account_pure]
    refine ⟨_, _, _, rfl, ?_, ?_, ?_⟩
    · rw [Option.any_none, Bool.and_false, Bool.or_false]
      exact h.keep keepAs nofun
    · simp
      rfl
    · simp
  | some held =>
    obtain ⟨proper, own⟩ := h target held hf
    obtain ⟨⟨reply, left, answered, proper', was, gives⟩, life⟩ :=
      Held.ask_heeded proper request b
    obtain ⟨released, account⟩ := ask_account_some hf answered
    rw [account, Account.noting_bind, Session.account_pure, List.append_nil, List.append_nil]
    refine ⟨_, _, _, rfl, ?_, ?_, ?_⟩
    · refine Tended.keep ?_ keepAs fun given same => gives given (Option.some.inj same)
      exact h.hold_left hf proper' was
    · rw [life, closes_eq_replicate h hf]
      rfl
    · intro raw
      exact proper.rawCursor (Bool.and_eq_true_iff.mp raw).2

theorem tended_empty (name : String) (calls : Bool) : ({} : Bench).Tended name calls false :=
  nofun

end Bench

/-! ## Taking a handle -/

/-- An account that costs one raw cursor at most and gives only what is good. -/
def Account.Opens (good : α → Prop) (a : Account α) : Prop :=
  (∃ opened ≤ 1, cursorLife a.entries = List.replicate opened .opened) ∧
    ∀ value, a.outcome = .ok value → good value

/-- A handle over an open raw cursor. -/
def Handle.Fresh (h : Handle shape) : Prop := h.backing ≠ .scripted ∧ h.closed = false

namespace Account

theorem opens_request {good : α → Prop} {refusal? : Option Failure} {answer : α}
    (h : good answer) : (Account.request refusal? answer [.cursorOpened]).Opens good := by
  cases refusal? with
  | some failure => exact ⟨⟨0, Nat.zero_le 1, rfl⟩, fun _ same => nomatch same⟩
  | none => exact ⟨⟨1, Nat.le_refl 1, rfl⟩, fun _ same => Except.ok.inj same ▸ h⟩

theorem Opens.bind {good : α → Prop} {good' : β → Prop} {a : Account α} {next : α → Account β}
    (h : a.Opens good) (silent : ∀ value, (next value).entries = [])
    (gives : ∀ value, good value → ∀ result, (next value).outcome = .ok result → good' result) :
    (a.bind next).Opens good' := by
  obtain ⟨opened, good⟩ := h
  cases ho : a.outcome with
  | error failure =>
    rw [Account.bind_of_error ho]
    exact ⟨opened, fun _ same => nomatch same⟩
  | ok value =>
    rw [Account.bind_of_ok ho, silent, List.append_nil]
    exact ⟨opened, gives value (good value ho)⟩

end Account

namespace Connection

variable (url : String) (style : MarkerStyle)

theorem createStatement_fresh (b : Behavior) :
    ((createStatement (.adapted url style)).account b).Opens Handle.Fresh := by
  rw [createStatement_adapted]
  exact Account.opens_request ⟨nofun, rfl⟩

theorem prepareCall_fresh (sql : String) (b : Behavior) :
    ((prepareCall sql (.adapted url style)).account b).Opens Handle.Fresh := by
  rw [prepareCall_adapted]
  exact Account.opens_request ⟨nofun, rfl⟩

theorem prepareStatement_fresh (sql : String) (b : Behavior) :
    ((prepareStatement sql (.adapted url style)).account b).Opens Handle.Fresh := by
  have opened : (Account.request (b.acquireFailure? .cursor) () [.cursorOpened]).Opens
      fun _ => True := Account.opens_request trivial
  rw [prepareStatement_adapted]
  refine opened.bind (fun _ => rfl) fun _ _ handle given => ?_
  obtain ⟨respelled, -, rfl⟩ := of_map_eq_ok given
  exact ⟨nofun, rfl⟩

instance local_grant (connection : Connection) (wish : Wish) : (connection.grant wish).Local := by
  unfold grant
  split <;> infer_instance

/-- A fresh handle is held as what was wished for. -/
theorem holding_fresh {acquire : Session (Handle shape)} [acquire.Local]
    {hold : Handle shape → Held} {calls : Bool} {b : Behavior}
    (opens : (acquire.account b).Opens Handle.Fresh)
    (held : ∀ h : Handle shape, h.Fresh → (hold h).Proper calls ∧ (hold h).closed? = some false) :
    ((do return hold (← acquire) : Session Held).account b).Opens
      fun given => given.Proper calls ∧ given.closed? = some false := by
  rw [Session.account_bind]
  simp only [Session.account_pure]
  exact opens.bind (fun _ => rfl) fun h fresh _ given => Except.ok.inj given ▸ held h fresh

/-- What a driver gives for a wish is open, and costs one raw cursor at most. -/
theorem grant_opens (wish : Wish) (b : Behavior) :
    (((adapted url style).grant wish).account b).Opens
      fun held => held.Proper wish.calls ∧ held.closed? = some false := by
  cases wish with
  | plain =>
    exact holding_fresh (createStatement_fresh url style b)
      fun h fresh => ⟨fresh.1, congrArg some fresh.2⟩
  | prepared sql =>
    exact holding_fresh (prepareStatement_fresh url style sql b)
      fun h fresh => ⟨fresh.1, congrArg some fresh.2⟩
  | callable sql =>
    exact holding_fresh (prepareCall_fresh url style sql b)
      fun h fresh => ⟨⟨fresh.1, rfl⟩, congrArg some fresh.2⟩
  | releasing sql =>
    exact holding_fresh (prepareStatement_fresh url style sql b)
      fun h fresh => ⟨fresh.1, congrArg some fresh.2⟩

end Connection

namespace Bench

instance local_take (bench : Bench) (connection : Connection) (wish : Wish) (name : String) :
    (bench.take connection wish name).Local := by
  refine .bind inferInstance fun outcome => ?_
  split <;> infer_instance

/-- What comes of a wish, by what the connection gave. -/
def given (bench : Bench) (name : String) : Except Failure Held → Except Failure Unit × Bench
  | .ok held => (.ok (), bench.hold name held)
  | .error failure => (.error failure, bench)

theorem take_account (bench : Bench) (connection : Connection) (wish : Wish) (name : String)
    (b : Behavior) :
    (bench.take connection wish name).account b =
      ⟨.ok (bench.given name ((connection.grant wish).account b).outcome),
        ((connection.grant wish).account b).entries,
        ((connection.grant wish).account b).events⟩ := by
  refine Session.account_attempt_bind (connection.grant wish) (bench.given name)
    (fun outcome => ?_) b
  cases outcome <;> rfl

end Bench

/-! ## Clients -/

/-- A bench, and the world it stands in. -/
structure Client where
  bench : Bench := {}
  world : World

namespace Client

/-- A client that has taken what it wished for, if it was given. -/
def taking (connection : Connection) (wish : Wish) (name : String) (w : World) : Client :=
  let (outcome, after) := (Bench.take {} connection wish name).run w
  { bench := (outcome.toOption.map Prod.snd).getD {}, world := after }

/-- The client after an errand. -/
def serve (client : Client) (errand : Errand) : Client :=
  let (outcome, after) := (client.bench.serve errand).run client.world
  { bench := outcome.toOption.getD client.bench, world := after }

/-- The client after errands. -/
def serveAll (client : Client) : List Errand → Client
  | [] => client
  | errand :: rest => (client.serve errand).serveAll rest

/-- How often errands ask something of a kind to close. -/
def closesAsked (kind : Held → Bool) (client : Client) : List Errand → Nat
  | [] => 0
  | errand :: rest =>
    (client.bench.asksToClose kind errand).toNat + (client.serve errand).closesAsked kind rest

theorem serve_eq {client : Client} {errand : Errand} {after : Bench} {entries : List Entry}
    {events : List Event}
    (account : (client.bench.serve errand).account client.world.behavior =
      ⟨.ok after, entries, events⟩) :
    client.serve errand =
      ⟨after, client.world.after (⟨.ok after, entries, events⟩ : Account Bench)⟩ := by
  rw [serve, Session.run_eq, account]
  rfl

/-- **All errands**: however they go on, the raw cursor is closed once for its handle, if that is
    open and ever asked to close, and once for each request to close a raw cursor. -/
theorem serveAll_life {client : Client} {name : String} {calls closed : Bool}
    (h : client.bench.Tended name calls closed) (errands : List Errand) :
    ∃ log, (client.serveAll errands).world.journal = client.world.journal ++ log ∧
      cursorLife log = List.replicate
        ((if closed then 0 else min 1 (client.closesAsked Held.isHandle errands)) +
          client.closesAsked Held.isRawCursor errands) .closed ∧
      (calls = false → client.closesAsked Held.isRawCursor errands = 0) := by
  induction errands generalizing client closed with
  | nil =>
    refine ⟨[], (List.append_nil _).symm, ?_, fun _ => rfl⟩
    cases closed <;> rfl
  | cons errand rest ih =>
    obtain ⟨after, entries, events, account, tended, life, raw⟩ :=
      client.bench.serve_account h errand client.world.behavior
    have step := serve_eq account
    have written : (client.serve errand).world.journal = client.world.journal ++ entries := by
      rw [step]
      rfl
    have tended' : (client.serve errand).bench.Tended name calls
        (closed || client.bench.asksToClose Held.isHandle errand) := by
      rw [step]
      exact tended
    obtain ⟨log, journal, life', raw'⟩ := ih tended'
    rw [serveAll, closesAsked, closesAsked]
    refine ⟨entries ++ log, by rw [journal, written, List.append_assoc], ?_, ?_⟩
    · rw [cursorLife_append, life, life', List.replicate_append_replicate]
      refine congrArg (List.replicate · CursorEvent.closed) ?_
      cases closed <;> cases client.bench.asksToClose Held.isHandle errand <;> simp <;> omega
    · intro never
      rw [raw' never]
      cases hr : client.bench.asksToClose Held.isRawCursor errand with
      | false => rfl
      | true => cases (raw hr).symm.trans never

/-- A client of a driver starts with one open handle, or with nothing. -/
theorem taking_tended (url : String) (style : MarkerStyle) (wish : Wish) (name : String)
    (w : World) :
    ∃ log, (taking (.adapted url style) wish name w).world.journal = w.journal ++ log ∧
      (∃ opened ≤ 1, cursorLife log = List.replicate opened .opened) ∧
      (taking (.adapted url style) wish name w).bench.Tended name wish.calls false := by
  obtain ⟨opened, given⟩ := Connection.grant_opens url style wish w.behavior
  rw [taking, Session.run_eq, Bench.take_account]
  refine ⟨_, rfl, opened, ?_⟩
  dsimp only
  cases hg : (((Connection.adapted url style).grant wish).account w.behavior).outcome with
  | error failure => exact Bench.tended_empty name wish.calls
  | ok held =>
    obtain ⟨proper, fresh⟩ := given held hg
    refine (Bench.tended_empty name wish.calls).hold proper fun was same => ⟨rfl, ?_⟩
    exact Option.some.inj (same.symm.trans fresh)

/-- **Who closes the raw cursor of a client**: its handle, once, and whoever was handed it. -/
theorem taking_life (url : String) (style : MarkerStyle) (w : World) (wish : Wish)
    (name : String) (errands : List Errand) :
    let client := taking (.adapted url style) wish name w
    ∃ log opened, (client.serveAll errands).world.journal = w.journal ++ log ∧ opened ≤ 1 ∧
      cursorLife log = List.replicate opened .opened ++ List.replicate
        (min 1 (client.closesAsked Held.isHandle errands) +
          client.closesAsked Held.isRawCursor errands) .closed ∧
      ((cursorLife log).count .closed = min 1 (client.closesAsked Held.isHandle errands) ↔
        client.closesAsked Held.isRawCursor errands = 0) ∧
      (wish.calls = false → client.closesAsked Held.isRawCursor errands = 0) := by
  intro client
  obtain ⟨taken, journal, ⟨opened, once, life⟩, tended⟩ := taking_tended url style wish name w
  obtain ⟨log, journal', life', never⟩ := serveAll_life tended errands
  have whole : cursorLife (taken ++ log) = List.replicate opened .opened ++ List.replicate
      (min 1 (client.closesAsked Held.isHandle errands) +
        client.closesAsked Held.isRawCursor errands) .closed := by
    rw [cursorLife_append, life, life', if_neg Bool.false_ne_true]
  refine ⟨taken ++ log, opened, ?_, once, whole, ?_, never⟩
  · rw [journal', journal, List.append_assoc]
  · rw [whole, List.count_append, List.count_replicate, List.count_replicate_self,
      if_neg (by decide)]
    omega

end Client

/-! ## Who closes -/

/-- **One life to a call**: over a driver whose cursor opens, a statement with a string to it opens
    one raw cursor and closes it once, whatever its caller does with the handle and whatever the
    driver answers, a refusal to close among it. -/
theorem Runner.executeCallable_cursorLife (url : String) (style : MarkerStyle) (dialect : Dialect)
    {statement : Statement} {visitors : List Visitor} {sql : String} {rest : List String}
    (rendered : Rendering.render dialect visitors statement = .ok (sql :: rest))
    (conduct : Option Conduct) {b : Behavior} (opens : b.acquireFailure? .cursor = none) :
    cursorLife (((overDriver url style dialect).executeCallable statement conduct
      visitors).account b).entries = [.opened, .closed] := by
  have strings := (overDriver url style dialect).render_account_of_ok rendered b
  have prepared := Connection.prepareCall_adapted url style sql b
  rw [opens, Account.request_none] at prepared
  have minds := (announce_minds "executing_callable" sql).bind fun _ =>
    (Handle.bind_leaves statement.parameters).minds.bind fun _ => Handle.handOver_minds conduct
  obtain ⟨-, life⟩ := minds { backing := .cursor style b.rowCount, sql := sql } b (by simp)
  rw [executeCallable,
    Session.account_bind_of_answer _ (ensureOnline_overDriver url style dialect b),
    Session.account_bind_of_answer _ strings]
  show cursorLife (((overDriver url style dialect).withHandle _ _ _ _).account b).entries = _
  rw [withHandle_account, prepared]
  dsimp only
  rw [cursorLife_append, life]
  rfl

/-- **A raw cursor is closed by its handle, and by whoever was handed it.** Around a call, whatever
    the caller that it is handed to does with the handle, one raw cursor is opened and closed once.
    And a client that takes a handle of any kind and runs errands with it and with all that it hands
    out closes the raw cursor once for the handle, if it was asked to close at all, and once for
    each time that a raw cursor was asked. So it is closed as the handle alone would close it
    exactly if no raw cursor was asked to, and only a callable handle can have handed one out. -/
theorem rawCursor_closes (url : String) (style : MarkerStyle) (dialect : Dialect) (w : World) :
    (∀ (statement : Statement) (visitors : List Visitor) (sql : String) (rest : List String)
        (conduct : Option Conduct),
      Rendering.render dialect visitors statement = .ok (sql :: rest) →
      w.behavior.acquireFailure? .cursor = none →
      ∃ log, (((Runner.overDriver url style dialect).executeCallable statement conduct
          visitors).run w).2.journal = w.journal ++ log ∧
        cursorLife log = [.opened, .closed]) ∧
    ∀ (wish : Wish) (name : String) (errands : List Errand),
      let client := Client.taking (.adapted url style) wish name w
      ∃ log opened, (client.serveAll errands).world.journal = w.journal ++ log ∧ opened ≤ 1 ∧
        cursorLife log = List.replicate opened .opened ++ List.replicate
          (min 1 (client.closesAsked Held.isHandle errands) +
            client.closesAsked Held.isRawCursor errands) .closed ∧
        ((cursorLife log).count .closed = min 1 (client.closesAsked Held.isHandle errands) ↔
          client.closesAsked Held.isRawCursor errands = 0) ∧
        (wish.calls = false → client.closesAsked Held.isRawCursor errands = 0) := by
  refine ⟨fun statement visitors sql rest conduct rendered opens => ?_,
    Client.taking_life url style w⟩
  refine ⟨_, ?_, Runner.executeCallable_cursorLife url style dialect rendered conduct opens⟩
  rw [Session.run_eq, World.after_journal]

/-- A caller that closes the handle itself, and calls after that, of a driver that refuses to close:
    one cursor, closed once. A client of a template closes no raw cursor that it was handed. -/
theorem rawCursor_closes_refused :
    let w : World := { behavior := { failClose := [.cursor] } }
    let conduct : Conduct := .close fun _ => .call fun _ => .answer .null
    (∃ log, (((Runner.overDriver "db://raw" .question .sqlite).executeCallable
        (.command (.call "CALL p(?)" [.int 1])) (some conduct) []).run w).2.journal =
          w.journal ++ log ∧
      cursorLife log = [.opened, .closed]) ∧
    (Client.taking (.adapted "db://raw" .question) (.prepared "SELECT 1") "h" w).closesAsked
      Held.isRawCursor [⟨"h", .run .query "", some "c"⟩, ⟨"c", .close, none⟩] = 0 := by
  intro w conduct
  obtain ⟨calls, clients⟩ := rawCursor_closes "db://raw" .question .sqlite w
  refine ⟨calls _ [] "CALL p(?)" [] (some conduct) (by rfl) rfl, ?_⟩
  obtain ⟨log, opened, -, -, -, -, never⟩ :=
    clients (.prepared "SELECT 1") "h" [⟨"h", .run .query "", some "c"⟩, ⟨"c", .close, none⟩]
  exact never rfl

/-- A call that is run by its text hands out the raw cursor. Closed by whoever was handed it, and
    then by its handle, it is closed twice, though the handle was asked once. -/
theorem Client.closes_twice :
    let client := Client.taking (.adapted "db://raw" .question) (.callable "CALL f(1)") "h" {}
    let errands : List Errand :=
      [⟨"h", .run .execute "", some "c"⟩, ⟨"c", .close, none⟩, ⟨"h", .close, none⟩]
    client.closesAsked Held.isHandle errands = 1 ∧
      (cursorLife (client.serveAll errands).world.journal).count .closed = 2 := by
  decide +kernel

end SqlRunner
