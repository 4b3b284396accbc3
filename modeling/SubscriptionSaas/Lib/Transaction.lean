import Mathlib.Data.List.Basic

/-!
# Interactive database transactions

A small library for programs that talk to a relational database at isolation level READ COMMITTED.

A program is a value of `Prog S α`: a tree of database statements over a signature `S`. A statement
reads a snapshot, takes a row lock that is held until the transaction ends, adds a write, asks the
outside world (a clock, an id generator, a remote provider), or ends the transaction. Reads do not
lock: they see the last committed database with the program's own uncommitted writes on top.

`Machine` runs any number of such programs concurrently. One step of the machine executes one
statement of one session, so a list of events is an interleaving, and a session that waits for a
row lock simply does not move. Every commit is recorded, with the snapshots its session has read,
in the machine's history; this is what the rules in `Lib.Proofs.TransactionProofs` talk about.
-/

namespace Transaction

/-- What a family of programs has in common: the database, its write statements and their effect,
the lockable rows, labels for reads, the questions put to the outside world, and the errors. -/
structure Sig where
  /-- The committed database. -/
  Db : Type
  /-- A write statement. -/
  Write : Type
  /-- The effect of a write statement. -/
  apply : Write → Db → Db
  /-- A row that can be locked. -/
  Row : Type
  /-- Labels of read statements. -/
  Tag : Type
  /-- Questions put to the outside world. -/
  Ask : Type
  /-- The answers to a question. -/
  Ans : Ask → Type
  /-- The errors a program can throw. -/
  Err : Type

/-- A program: a tree of statements that ends with a value or an error. -/
inductive Prog (S : Sig) (α : Type) where
  | done (a : α)
  | throw (e : S.Err)
  | query (t : S.Tag) (k : S.Db → Prog S α)
  | lock (r : S.Row) (k : Prog S α)
  | write (w : S.Write) (k : Prog S α)
  | ask (q : S.Ask) (k : S.Ans q → Prog S α)
  | commit (k : Prog S α)
  | rollback (k : Prog S α)

variable {S : Sig} {α β : Type}

namespace Prog

/-- Sequential composition. -/
protected def bind : Prog S α → (α → Prog S β) → Prog S β
  | .done a, f => f a
  | .throw e, _ => .throw e
  | .query t k, f => .query t fun db => (k db).bind f
  | .lock r k, f => .lock r (k.bind f)
  | .write w k, f => .write w (k.bind f)
  | .ask q k, f => .ask q fun a => (k a).bind f
  | .commit k, f => .commit (k.bind f)
  | .rollback k, f => .rollback (k.bind f)

instance : Monad (Prog S) where
  pure := .done
  bind := Prog.bind

/-- Runs `h` when the program throws; the open transaction has been rolled back by then. -/
def catchErr : Prog S α → (S.Err → Prog S α) → Prog S α
  | .done a, _ => .done a
  | .throw e, h => .rollback (h e)
  | .query t k, h => .query t fun db => (k db).catchErr h
  | .lock r k, h => .lock r (k.catchErr h)
  | .write w k, h => .write w (k.catchErr h)
  | .ask q k, h => .ask q fun a => (k a).catchErr h
  | .commit k, h => .commit (k.catchErr h)
  | .rollback k, h => .rollback (k.catchErr h)

end Prog

/-- Reads the database under the label `t` and keeps what `f` selects. -/
def select (t : S.Tag) (f : S.Db → α) : Prog S α := .query t fun db => .done (f db)

/-- Locks one row (`SELECT … FOR UPDATE`, or the lock an `UPDATE` takes on its row). -/
def lockRow (r : S.Row) : Prog S Unit := .lock r (.done ())

/-- Locks several rows, one after the other. -/
def lockRows : List S.Row → Prog S Unit
  | [] => .done ()
  | r :: rs => .lock r (lockRows rs)

/-- Executes a write statement. -/
def exec (w : S.Write) : Prog S Unit := .write w (.done ())

/-- Asks the outside world. -/
def ask (q : S.Ask) : Prog S (S.Ans q) := .ask q .done

/-- Throws an error. -/
def fail (e : S.Err) : Prog S α := .throw e

/-- Throws `e` unless `b` holds. -/
def ensure (b : Bool) (e : S.Err) : Prog S Unit := if b then .done () else .throw e

/-- Ends the transaction successfully. -/
def commitTx : Prog S Unit := .commit (.done ())

/-- The effect of the writes `ws`, in order. -/
def applyAll (S : Sig) (ws : List S.Write) (db : S.Db) : S.Db := ws.foldl (fun d w => S.apply w d) db

/-! ## The machine -/

/-- A running program. -/
structure Session (S : Sig) (Call : Type) where
  /-- The call the session was started with. -/
  call : Call
  /-- What is left to execute. -/
  prog : Prog S Unit
  /-- The row locks held by the open transaction. -/
  held : List S.Row
  /-- The writes of the open transaction. -/
  pending : List S.Write
  /-- The committed snapshots read since the last commit. -/
  seen : List (S.Tag × S.Db)

/-- A committed transaction: who committed, what it had read, its writes, and the committed
database before and after. -/
structure Commit (S : Sig) (Call : Type) where
  call : Call
  seen : List (S.Tag × S.Db)
  writes : List S.Write
  before : S.Db
  after : S.Db

/-- The committed database, the sessions by number, and the commits so far (the latest last). -/
structure Machine (S : Sig) (Call : Type) where
  db : S.Db
  sessions : List (Session S Call)
  history : List (Commit S Call)

/-- One event of an interleaving: a call arrives, a session executes its next statement (`ans`
answers the question if it asks one), or a session dies and its transaction is rolled back. -/
inductive Event (S : Sig) (Call : Type) where
  | begin (call : Call)
  | run (sid : Nat) (ans : (q : S.Ask) → S.Ans q)
  | crash (sid : Nat)

variable {Call : Type}

/-- A machine without sessions. -/
def Machine.init (db : S.Db) : Machine S Call := ⟨db, [], []⟩

/-- A session that has just arrived. -/
def Session.start (body : Call → Prog S Unit) (call : Call) : Session S Call :=
  ⟨call, body call, [], [], []⟩

/-- A session that is over and holds nothing. -/
def Session.stop (s : Session S Call) : Session S Call :=
  { s with prog := .done (), held := [], pending := [] }

/-- Replaces session `sid`. -/
def Machine.put (m : Machine S Call) (sid : Nat) (s : Session S Call) : Machine S Call :=
  { m with sessions := m.sessions.set sid s }

/-- Row `r` is locked by no session. -/
def Machine.unlocked [DecidableEq S.Row] (m : Machine S Call) (r : S.Row) : Bool :=
  m.sessions.all fun s => decide (r ∉ s.held)

/-- The next statement of session `sid`, which is `s`. -/
def Machine.advance [DecidableEq S.Row] (m : Machine S Call) (sid : Nat) (s : Session S Call)
    (ans : (q : S.Ask) → S.Ans q) : Machine S Call :=
  match s.prog with
  | .done _ => m.put sid s.stop
  | .throw _ => m.put sid s.stop
  | .query t k =>
    m.put sid { s with prog := k (applyAll S s.pending m.db), seen := s.seen ++ [(t, m.db)] }
  | .lock r k =>
    if r ∈ s.held ∨ m.unlocked r then m.put sid { s with prog := k, held := r :: s.held } else m
  | .write w k => m.put sid { s with prog := k, pending := s.pending ++ [w] }
  | .ask q k => m.put sid { s with prog := k (ans q) }
  | .commit k =>
    let after := applyAll S s.pending m.db
    { db := after
      sessions := m.sessions.set sid { s with prog := k, held := [], pending := [], seen := [] }
      history := m.history ++ [⟨s.call, s.seen, s.pending, m.db, after⟩] }
  | .rollback k => m.put sid { s with prog := k, held := [], pending := [] }

/-- One event. -/
def Machine.step [DecidableEq S.Row] (body : Call → Prog S Unit) (m : Machine S Call) :
    Event S Call → Machine S Call
  | .begin call => { m with sessions := m.sessions ++ [Session.start body call] }
  | .run sid ans =>
    match m.sessions[sid]? with
    | none => m
    | some s => m.advance sid s ans
  | .crash sid =>
    match m.sessions[sid]? with
    | none => m
    | some s => m.put sid s.stop

/-- A whole interleaving. -/
def Machine.runs [DecidableEq S.Row] (body : Call → Prog S Unit) (m : Machine S Call)
    (evs : List (Event S Call)) : Machine S Call :=
  evs.foldl (Machine.step body) m

/-- Calls one after the other, from session `sid` on: each session executes as many statements as it is
given answers, before the next one starts. -/
def serialFrom : Nat → List (Call × List ((q : S.Ask) → S.Ans q)) → List (Event S Call)
  | _, [] => []
  | sid, (call, answers) :: calls =>
    .begin call :: answers.map (.run sid) ++ serialFrom (sid + 1) calls

/-- Calls one after the other. -/
def serial (calls : List (Call × List ((q : S.Ask) → S.Ans q))) : List (Event S Call) :=
  serialFrom 0 calls

end Transaction
