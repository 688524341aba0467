import SqlRunner.Proofs.Account.Handle
import SqlRunner.Proofs.Binding

/-!
# Interpolation — what a driver with percent signs makes of respelled SQL

A driver whose markers are written with percent signs puts its arguments into the text itself: `%s`
is replaced by the next argument, `%%` by one percent sign, and a percent sign with anything else
behind it makes the driver fail. It does so wherever it is handed arguments, be they none, and runs
the text as it is where it is handed nothing.

Respelling doubles percent signs for the sake of that, and `interpolate_spell` says that no more is
done than is undone: read by the driver, respelled SQL has the very signs of the SQL. What reaches
the database is therefore the SQL with its parameters written into it, and SQL without markers
arrives as it is, whichever handle it is sent through.
-/

set_option autoImplicit false

namespace SqlRunner

namespace Marker

/-! ## The driver's reading -/

/-- Respelled text as a driver reads it, from left to right: a conversion is the place of an
    argument. Nothing can be made of a stray percent sign. -/
def interpolate : List Char → Option (List Sign)
  | [] => some []
  | '%' :: '%' :: rest => (interpolate rest).map (.char '%' :: ·)
  | '%' :: 's' :: rest => (interpolate rest).map (.marker :: ·)
  | '%' :: _ => none
  | c :: rest => (interpolate rest).map (.char c :: ·)

/-- Signs with arguments in the places of the markers, each written by `write`. There has to be one
    argument for each marker. -/
def fill (write : Datum → List Char) : List Sign → List Datum → Option (List Char)
  | [], [] => some []
  | [], _ :: _ => none
  | .char c :: rest, arguments => (fill write rest arguments).map (c :: ·)
  | .marker :: _, [] => none
  | .marker :: rest, first :: others => (fill write rest others).map (write first ++ ·)

/-- What reaches the database of text that a driver is given: the text itself where it is handed no
    arguments, and otherwise the text with the arguments in it, if they can be put there. -/
def received (write : Datum → List Char) (text : String) : Option Arguments → Option String
  | none => some text
  | some (.positional values) =>
    ((interpolate text.toList).bind fun signs => fill write signs values).map String.ofList
  | some (.named _) => none

theorem interpolate_written {style : MarkerStyle} (percent : style.isPercent = true) (c : Char)
    (rest : List Char) :
    interpolate (Sign.written style c ++ rest) = (interpolate rest).map (.char c :: ·) := by
  rw [Sign.written]
  by_cases h : c = '%'
  · rw [if_pos ⟨percent, h⟩, h]
    rfl
  · rw [if_neg fun doubled => h doubled.2, List.singleton_append, interpolate]
    all_goals intros; contradiction

theorem interpolate_conversion (rest : List Char) :
    interpolate ("%s".toList ++ rest) = (interpolate rest).map (.marker :: ·) := rfl

/-- **The driver reads the signs that were written**, and no percent sign is ever stray. -/
theorem interpolate_spell {style : MarkerStyle} (percent : style.isPercent = true)
    (signs : List Sign) (k : Nat) :
    ∃ text, Sign.spell style k signs = some text ∧ interpolate text = some signs := by
  induction signs generalizing k with
  | nil => exact ⟨[], rfl, rfl⟩
  | cons sign rest ih =>
    cases sign with
    | char c =>
      obtain ⟨text, spelled, read⟩ := ih k
      refine ⟨Sign.written style c ++ text, ?_, ?_⟩
      · rw [Sign.spell, spelled]
        rfl
      · rw [interpolate_written percent, read]
        rfl
    | marker =>
      obtain ⟨text, spelled, read⟩ := ih (k + 1)
      have conversion : Sign.marking style (k + 1) = some "%s" := by
        cases style with
        | format => rfl
        | extendedFormat => rfl
        | _ => cases percent
      refine ⟨"%s".toList ++ text, ?_, ?_⟩
      · rw [Sign.spell, conversion, spelled]
        rfl
      · rw [interpolate_conversion, read]
        rfl

/-- Without markers there is nothing to put into a text. -/
theorem fill_nil (write : Datum → List Char) {signs : List Sign}
    (unmarked : Sign.markers signs = 0) :
    fill write signs [] = some (signs.map Sign.toChar) := by
  induction signs with
  | nil => rfl
  | cons sign rest ih =>
    cases sign with
    | marker => simp [Sign.markers] at unmarked
    | char c =>
      rw [fill, ih (by simpa [Sign.markers] using unmarked)]
      rfl

/-- There is a text to be had exactly if there is an argument for each marker. -/
theorem fill_isSome_iff (write : Datum → List Char) (signs : List Sign) (values : List Datum) :
    (fill write signs values).isSome ↔ values.length = Sign.markers signs := by
  fun_induction fill write signs values with
  | case1 => simp [Sign.markers]
  | case2 => simp [Sign.markers]
  | case3 c rest values ih => simpa [Sign.markers] using ih
  | case4 => simp [Sign.markers]
  | case5 rest first others ih => simpa [Sign.markers] using ih

/-- In a style with percent signs all SQL can be respelled, and read back. -/
theorem respell_percent {style : MarkerStyle} (percent : style.isPercent = true) (sql : String) :
    ∃ text, respell sql style = .ok text ∧ interpolate text.toList = some (Sign.ofSql sql) := by
  obtain ⟨text, spelt, read⟩ := interpolate_spell percent (Sign.ofSql sql) 0
  refine ⟨String.ofList text, ?_, ?_⟩
  · rw [respell_eq_spell, spelt]
    rfl
  · rw [String.toList_ofList, read]

/-- Arguments of such a style are handed over by position. -/
theorem bind_percent {style : MarkerStyle} (percent : style.isPercent = true)
    (parameters : List Datum) : bind parameters style = .positional parameters := by
  cases style with
  | format => rfl
  | extendedFormat => rfl
  | _ => cases percent

/-- What reaches the database of respelled SQL is the SQL with the parameters in it. -/
theorem received_bind {style : MarkerStyle} (percent : style.isPercent = true)
    (write : Datum → List Char) {sql text : String}
    (read : interpolate text.toList = some (Sign.ofSql sql)) (parameters : List Datum) :
    received write text (some (bind parameters style)) =
      (fill write (Sign.ofSql sql) parameters).map String.ofList := by
  rw [bind_percent percent, received, read]
  rfl

/-- Without markers and parameters it is the SQL itself. -/
theorem received_bind_nil {style : MarkerStyle} (percent : style.isPercent = true)
    (write : Datum → List Char) {sql text : String}
    (read : interpolate text.toList = some (Sign.ofSql sql))
    (unmarked : Sign.markers (Sign.ofSql sql) = 0) :
    received write text (some (bind [] style)) = some sql := by
  rw [received_bind percent write read, fill_nil write unmarked, Sign.map_toChar_ofSql,
    Option.map_some, String.ofList_toList]

end Marker

/-! ## Three ways to a database -/

namespace Connection

variable {shape : Shape}

/-- SQL on its way through a handle. -/
def sendThrough (acquire : Session (Handle shape)) (use : HandleStep shape Unit) :
    Session Unit := do
  let handle ← acquire
  let ended ← handle.perform use
  Session.ofExcept ended.1

/-- The handles through which SQL without parameters can be sent. -/
inductive Way where
  | plain (verb : Verb)
  | prepared (verb : Verb)
  | callable

/-- What is done on a prepared handle. -/
def usePrepared (verb : Verb) : HandleStep .prepared Unit := do
  Handle.bind []
  Handle.runPrepared verb

/-- What is done on a callable handle. -/
def useCallable : HandleStep .callable Unit := do
  Handle.bind []
  let _ ← Handle.call

/-- Sends SQL over a connection. -/
def send (c : Connection) (sql : String) : Way → Session Unit
  | .plain verb => sendThrough c.createStatement (Handle.runPlain verb sql)
  | .prepared verb => sendThrough (c.prepareStatement sql) (usePrepared verb)
  | .callable => sendThrough (c.prepareCall sql) useCallable

/-- Whether SQL is sent as text. Only a call may be made otherwise, by the name of a procedure. -/
def Way.sendsText (b : Behavior) (sql : String) : Way → Bool
  | plain _ | prepared _ => true
  | callable => !b.callsByName || (CallTarget.target? sql 0).isNone

instance local_sendThrough (acquire : Session (Handle shape)) (use : HandleStep shape Unit)
    [acquire.Local] [use.Local] : (sendThrough acquire use).Local := by
  unfold sendThrough
  infer_instance

theorem sendThrough_account (acquire : Session (Handle shape)) (use : HandleStep shape Unit)
    [acquire.Local] [use.Local] (b : Behavior) :
    (sendThrough acquire use).account b =
      (acquire.account b).bind fun handle => (use.stint handle b).toAccount := by
  rw [sendThrough, Session.account_bind]
  simp only [Session.account_bind, Handle.perform_account, Session.account_ofExcept,
    Account.noting_bind, List.append_nil]

instance local_usePrepared (verb : Verb) : (usePrepared verb).Local := by
  unfold usePrepared
  infer_instance

instance local_useCallable : useCallable.Local := by
  unfold useCallable
  infer_instance

instance local_send (c : Connection) (sql : String) (way : Way) : (c.send sql way).Local := by
  unfold send
  split <;> infer_instance

theorem usePrepared_stint (verb : Verb) {style : MarkerStyle} {rowCount : Option Int}
    (text : String) (b : Behavior) :
    (usePrepared verb).stint { backing := .cursor style rowCount, sql := text } b =
      Handle.request { backing := .cursor style rowCount, sql := text } (b.refusal? text) ()
        [.cursorRan text (some (Marker.bind [] style))] := by
  rw [usePrepared, HandleStep.stint_bind, Handle.bind_stint]
  exact Handle.runPrepared_stint verb { backing := .cursor style rowCount, sql := text } b

theorem useCallable_stint {style : MarkerStyle} {rowCount : Option Int} {sql text : String}
    (b : Behavior) (byText : Way.callable.sendsText b sql = true)
    (respelled : Marker.respell sql style = .ok text) :
    (useCallable.stint { backing := .cursor style rowCount, sql := sql } b).toAccount =
      .request (b.refusal? text) () [.cursorRan text (some (Marker.bind [] style))] := by
  have unnamed : Handle.calledByName? b
      { backing := .cursor style rowCount, sql := sql } = none := by
    rw [Handle.calledByName?]
    cases named : b.callsByName with
    | false => rfl
    | true => simpa [Way.sendsText, named] using byText
  have called := Handle.call_stint_text { backing := .cursor style rowCount, sql := sql } b rfl
    unnamed
  rw [useCallable, HandleStep.stint_bind, Handle.bind_stint]
  simp only [respelled] at called
  show ((HandleStep.stint (Handle.call >>= fun _ => pure ())
    { backing := .cursor style rowCount, sql := sql } b)).toAccount = _
  rw [HandleStep.stint_bind, called]
  cases b.refusal? text with
  | some failure => rfl
  | none => rfl

/-- What is written down of text that is run on a new raw cursor. -/
def cursorRequest (b : Behavior) (text : String) (arguments : Option Marker.Arguments) :
    Account Unit :=
  (Account.request (b.acquireFailure? .cursor) () [.cursorOpened]).bind fun _ =>
    .request (b.refusal? text) () [.cursorRan text arguments]

/-- A new raw cursor, and one request to it. -/
theorem sendThrough_cursor {acquire : Session (Handle shape)} {use : HandleStep shape Unit}
    [acquire.Local] [use.Local] {b : Behavior} {handle : Handle shape} {text : String}
    {arguments : Option Marker.Arguments}
    (acquired : acquire.account b =
      .request (b.acquireFailure? .cursor) handle [.cursorOpened])
    (used : (use.stint handle b).toAccount =
      .request (b.refusal? text) () [.cursorRan text arguments]) :
    (sendThrough acquire use).account b = cursorRequest b text arguments := by
  rw [sendThrough_account, acquired, cursorRequest]
  cases b.acquireFailure? .cursor with
  | some failure => rfl
  | none => rw [Account.request_none, Account.noting_bind, used, Account.request_none,
      Account.noting_bind]

/-- **Each way comes to one run of text**, and of that text the SQL is received. -/
theorem send_account (url : String) {style : MarkerStyle} (percent : style.isPercent = true)
    {sql : String} (unmarked : Sign.markers (Sign.ofSql sql) = 0) (b : Behavior) {way : Way}
    (byText : way.sendsText b sql = true) :
    ∃ text arguments, (∀ write, Marker.received write text arguments = some sql) ∧
      ((adapted url style).send sql way).account b = cursorRequest b text arguments := by
  obtain ⟨text, respelled, read⟩ := Marker.respell_percent percent sql
  have received (write : Datum → List Char) :=
    Marker.received_bind_nil percent write read unmarked
  cases way with
  | plain verb =>
    exact ⟨sql, none, fun _ => rfl, sendThrough_cursor (createStatement_adapted url style b)
      (congrArg Stint.toAccount (Handle.runPlain_stint verb sql _ b))⟩
  | prepared verb =>
    exact ⟨text, some (Marker.bind [] style), received,
      sendThrough_cursor (prepareStatement_respelled url respelled b)
        (congrArg Stint.toAccount (usePrepared_stint verb text b))⟩
  | callable =>
    exact ⟨text, some (Marker.bind [] style), received,
      sendThrough_cursor (prepareCall_adapted url style sql b)
        (useCallable_stint b byText respelled)⟩

end Connection

/-- What the database received of the text that a call ran on a raw cursor, if it could make
    anything of it. -/
def Entry.arrival? (write : Datum → List Char) : Entry → Option (Option String)
  | .cursorRan text arguments => some (Marker.received write text arguments)
  | _ => none

/-- What the database received, in order. -/
def arrivals (write : Datum → List Char) (log : List Entry) : List (Option String) :=
  log.filterMap (Entry.arrival? write)

namespace Connection

/-- Of one request the database receives the text, unless the driver refuses before. -/
theorem arrivals_cursorRequest (write : Datum → List Char) (b : Behavior) {text sql : String}
    {arguments : Option Marker.Arguments} (h : Marker.received write text arguments = some sql) :
    let a := cursorRequest b text arguments
    arrivals write a.entries = if a.outcome.isOk then [some sql] else [] := by
  intro a
  simp only [a, cursorRequest]
  cases b.acquireFailure? .cursor with
  | some failure => rfl
  | none =>
    rw [Account.request_none, Account.noting_bind]
    cases b.refusal? text with
    | some failure => rfl
    | none => exact congrArg (fun got => [got]) h

/-- A driver that refuses nothing runs everything. -/
theorem cursorRequest_accepted {b : Behavior} (opens : b.acquireFailure? .cursor = none)
    (accepts : b.refused = []) (text : String) (arguments : Option Marker.Arguments) :
    (cursorRequest b text arguments).outcome = .ok () := by
  have refusal : b.refusal? text = none := by
    rw [Behavior.refusal?, accepts]
    rfl
  rw [cursorRequest, opens, refusal]
  rfl

end Connection

/-- **Percent signs are undone by the driver.** In a style with percent signs all SQL can be
    respelled. A driver that reads the respelled text from left to right meets no stray percent
    sign, and it reads the signs of the SQL, so there is one conversion for each marker and the
    text with the doubling undone is the SQL. What it makes of the text and of any parameters is
    the SQL with the parameters in the places of its markers, character by character, and it fails
    only where their numbers differ. SQL without markers therefore reaches the database as it is,
    through whichever handle it is sent as text: nothing else is ever received, it is received once
    if the handle does not fail, and no handle fails of itself. -/
theorem Marker.percents_undone (write : Datum → List Char) (sql : String) {style : MarkerStyle}
    (percent : style.isPercent = true) :
    (∃ text, respell sql style = .ok text ∧
      interpolate text.toList = some (Sign.ofSql sql) ∧
      (Sign.ofSql sql).map Sign.toChar = sql.toList ∧
      ∀ parameters,
        received write text (some (bind parameters style)) =
          (fill write (Sign.ofSql sql) parameters).map String.ofList ∧
        ((received write text (some (bind parameters style))).isSome ↔
          parameters.length = Sign.markers (Sign.ofSql sql))) ∧
    (Sign.markers (Sign.ofSql sql) = 0 →
      ∀ (url : String) (w : World) (way : Connection.Way),
        way.sendsText w.behavior sql = true →
        let run := ((Connection.adapted url style).send sql way).run w
        ∃ log, run.2.journal = w.journal ++ log ∧
          arrivals write log = (if run.1.isOk then [some sql] else []) ∧
          (w.behavior.acquireFailure? .cursor = none → w.behavior.refused = [] →
            run.1 = .ok ())) := by
  constructor
  · obtain ⟨text, respelled, read⟩ := respell_percent percent sql
    refine ⟨text, respelled, read, Sign.map_toChar_ofSql sql, fun parameters => ?_⟩
    have filled := received_bind percent write read parameters
    refine ⟨filled, ?_⟩
    rw [filled, Option.isSome_map]
    exact fill_isSome_iff write (Sign.ofSql sql) parameters
  · intro unmarked url w way byText
    obtain ⟨text, arguments, got, account⟩ :=
      Connection.send_account url percent unmarked w.behavior byText
    rw [Session.run_eq, account]
    exact ⟨_, rfl, Connection.arrivals_cursorRequest write w.behavior (got write),
      fun opens accepts => Connection.cursorRequest_accepted opens accepts text arguments⟩

/-- A literal with a percent sign and a question mark, and a division by remainder. -/
theorem Marker.percents_undone_remainder :
    MarkerStyle.format.isPercent = true ∧
    ∃ log, (((Connection.adapted "db" .format).send "SELECT '100%?', 5 % 2"
      (.prepared .query)).run {}).2.journal = log ∧
        arrivals (fun value => value.display.toList) log = [some "SELECT '100%?', 5 % 2"] := by
  obtain ⟨log, journal, got, ends⟩ :=
    (@Marker.percents_undone (fun value => value.display.toList) "SELECT '100%?', 5 % 2"
      .format rfl).2 (by decide +kernel) "db" {} (.prepared .query) rfl
  rw [ends rfl rfl] at got
  exact ⟨rfl, log, journal, got⟩

end SqlRunner
