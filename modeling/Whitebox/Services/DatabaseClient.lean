import Whitebox.Effect.ContextManager
import Whitebox.Services.Session

/-!
# The database client

`DatabaseClient.cursor` lends a cursor of a fresh connection to its body,
through a tunnel if the database is on an internal network.  A connection has
one transaction: other connections see its changes once they are committed,
and closing the connection discards what is not.

What a body does to the database is described twice, by its effect on the view
of the transaction (`transact`) and by the requests of its cursor (`body`).
`cursor_run` says what a call makes of the first.
-/

namespace Whitebox.Services

open Whitebox.Effect Whitebox.Python

/-- `CONF.whitebox_database`. -/
structure DatabaseConf where
  host : Str
  internalIp : Option Str
  user : Str
  password : Str
  sshGatewayPort : Int

structure DatabaseClient where
  sshKey : Str
  sshUser : Str

/-- The arguments of `sshtunnel.SSHTunnelForwarder`. -/
structure Tunnel where
  gateway : Str × Int
  sshUsername : Str
  sshPkey : Str
  allowAgent : Bool
  remoteBindAddress : Str × Int
  localBindAddress : Str × Int

/-- The arguments of `pymysql.connect`. -/
structure ConnectArguments where
  host : Str
  port : Int
  user : Str
  password : Str
  database : Str

/-- The database server and the tunnels, as one connection sees them: the view
of its transaction is there while it is open. -/
structure Database (δ : Type) where
  committed : δ
  transaction : Option δ
  closes : Nat
  tunnels : List Tunnel

/-- Which requests fail. -/
structure Outside where
  startTunnel : Tunnel → Option Exn
  connect : List Tunnel → ConnectArguments → Option Exn
  commit : Option Fault

/-- A statement changes the view of the transaction, or raises. -/
abbrev Statement (δ : Type) := Run δ Exn PUnit

variable {δ α : Type}

def interfaceError : Exn := .other "InterfaceError".toList

def alreadyClosed : Exn := .other "Error".toList

/-- The forwarder as a context manager: it is stopped at the end. -/
def sshTunnelForwarder (outside : Outside) (tunnel : Tunnel) :
    ContextManager (Database δ) Exn PUnit where
  enter := fun database =>
    match outside.startTunnel tunnel with
    | some error => (.error error, database)
    | none =>
        (.ok ⟨⟩, { database with tunnels := tunnel :: database.tunnels })
  exit := fun _ database =>
    (.ok ⟨⟩, { database with tunnels := database.tunnels.tail })

theorem sshTunnelForwarder_around {outside : Outside} {tunnel : Tunnel}
    {before after : Database δ} {inner : Run (Database δ) Exn α}
    {outcome : Except Exn α} (starts : outside.startTunnel tunnel = none)
    (ran : inner { before with tunnels := tunnel :: before.tunnels } =
      (outcome, after)) :
    (sshTunnelForwarder outside tunnel).around inner before =
      (outcome, { after with tunnels := after.tunnels.tail }) := by
  have entered : (sshTunnelForwarder outside tunnel).enter before =
      (.ok ⟨⟩, { before with tunnels := tunnel :: before.tunnels }) := by
    simp only [sshTunnelForwarder, starts]
  have stopped : (sshTunnelForwarder outside tunnel).exit ⟨⟩
      (inner { before with tunnels := tunnel :: before.tunnels }).2 =
        (.ok ⟨⟩, { after with tunnels := after.tunnels.tail }) := by
    rw [ran]
    rfl
  rw [ContextManager.around_enter_ok entered, Run.tryFinally_ok stopped, ran]

namespace Connection

/-- `pymysql.connect`; autocommit is off. -/
def connect (outside : Outside) (arguments : ConnectArguments) :
    Run (Database δ) Exn PUnit := fun database =>
  match outside.connect database.tunnels arguments with
  | some error => (.error error, database)
  | none => (.ok ⟨⟩, { database with transaction := some database.committed })

/-- `cursor.execute`. -/
def execute (statement : Statement δ) : Run (Database δ) Exn PUnit :=
  fun database =>
    match database.transaction with
    | none => (.error interfaceError, database)
    | some view =>
        ((statement view).1,
          { database with transaction := some (statement view).2 })

/-- `conn.commit`; a commit that raises may have been done all the same. -/
def commit (outside : Outside) : Run (Database δ) Exn PUnit := fun database =>
  match database.transaction, outside.commit with
  | none, _ => (.error interfaceError, database)
  | some view, none => (.ok ⟨⟩, { database with committed := view })
  | some view, some fault =>
      (.error fault.error,
        if fault.effective then { database with committed := view }
        else database)

/-- `conn.close`. -/
def close : Run (Database δ) Exn PUnit := fun database =>
  match database.transaction with
  | none => (.error alreadyClosed, database)
  | some _ =>
      (.ok ⟨⟩,
        { database with transaction := none, closes := database.closes + 1 })

/-- The `finally` block, the same in both branches. -/
def finish (outside : Outside) (committing : Bool) :
    Run (Database δ) Exn PUnit := do
  if committing then commit outside
  close

end Connection

namespace DatabaseClient

def tunnelLocalBindHost : Str := "127.42.42.42".toList

def tunnelLocalBindPort : Int := 4242

def tunnel (client : DatabaseClient) (conf : DatabaseConf)
    (internalIp : Str) : Tunnel where
  gateway := (conf.host, conf.sshGatewayPort)
  sshUsername := client.sshUser
  sshPkey := client.sshKey
  allowAgent := false
  remoteBindAddress := (internalIp, 3306)
  localBindAddress := (tunnelLocalBindHost, tunnelLocalBindPort)

def tunnelled (conf : DatabaseConf) (databaseName : Str) :
    ConnectArguments where
  host := tunnelLocalBindHost
  port := tunnelLocalBindPort
  user := conf.user
  password := conf.password
  database := databaseName

def direct (conf : DatabaseConf) (databaseName : Str) :
    ConnectArguments where
  host := conf.host
  port := 3306
  user := conf.user
  password := conf.password
  database := databaseName

variable (client : DatabaseClient) (conf : DatabaseConf) (outside : Outside)
  (databaseName : Str)

/-- `with client.cursor(database_name, commit): body`.  Leaving the block of
the PyMySQL cursor itself asks nothing of the server. -/
def cursor (commit : Bool) (body : Run (Database δ) Exn α) :
    Run (Database δ) Exn α :=
  match conf.internalIp.filter (· ≠ []) with
  | some internalIp =>
      (sshTunnelForwarder outside (client.tunnel conf internalIp)).around do
        Connection.connect outside (tunnelled conf databaseName)
        Run.tryFinally body (Connection.finish outside commit)
  | none => do
      Connection.connect outside (direct conf databaseName)
      Run.tryFinally body (Connection.finish outside commit)

/-- The tunnel, if there is one, and the connection can be set up. -/
def Reaches (tunnels : List Tunnel) : Prop :=
  match conf.internalIp.filter (· ≠ []) with
  | some internalIp =>
      outside.startTunnel (client.tunnel conf internalIp) = none ∧
        outside.connect (client.tunnel conf internalIp :: tunnels)
          (tunnelled conf databaseName) = none
  | none => outside.connect tunnels (direct conf databaseName) = none

end DatabaseClient

/-- The statements of a body and how it ends after them, as they act on the
view of the transaction. -/
def transact : List (Statement δ) → Except Exn α → Run δ Exn α
  | [], ending => fun view => (ending, view)
  | statement :: statements, ending => do
      statement
      transact statements ending

/-- The same body with the requests it makes through the cursor. -/
def body : List (Statement δ) → Except Exn α → Run (Database δ) Exn α
  | [], ending => fun database => (ending, database)
  | statement :: statements, ending => do
      Connection.execute statement
      body statements ending

/-- What a call leaves behind when its body has this effect. -/
def settled (outside : Outside) (commit : Bool) (ran : Except Exn α × δ)
    (before : Database δ) : Except Exn α × Database δ :=
  let closed : Database δ :=
    { before with transaction := none, closes := before.closes + 1 }
  match commit, outside.commit with
  | false, _ => (ran.1, closed)
  | true, none => (ran.1, { closed with committed := ran.2 })
  | true, some fault =>
      (.error fault.error,
        { before with
          committed := if fault.effective then ran.2 else before.committed
          transaction := some ran.2 })

theorem settled_tunnels (outside : Outside) (commit : Bool)
    (ran : Except Exn α × δ) (before : Database δ) (tunnels : List Tunnel) :
    settled outside commit ran { before with tunnels := tunnels } =
      ((settled outside commit ran before).1,
        { (settled outside commit ran before).2 with tunnels := tunnels }) := by
  cases commit with
  | false => rfl
  | true => cases failing : outside.commit <;> simp only [settled, failing]

theorem tunnels_settled (outside : Outside) (commit : Bool)
    (ran : Except Exn α × δ) (before : Database δ) :
    (settled outside commit ran before).2.tunnels = before.tunnels := by
  cases commit with
  | false => rfl
  | true => cases failing : outside.commit <;> simp only [settled, failing]

section Runs

variable (outside : Outside) {database : Database δ} {view : δ}

theorem Connection.execute_open (statement : Statement δ)
    (opened : database.transaction = some view) :
    Connection.execute statement database =
      ((statement view).1,
        { database with transaction := some (statement view).2 }) := by
  simp only [Connection.execute, opened]

/-- A body that has an open connection acts on the view of its transaction and
on nothing else. -/
theorem body_run (statements : List (Statement δ)) (ending : Except Exn α)
    (opened : database.transaction = some view) :
    body statements ending database =
      ((transact statements ending view).1,
        { database with
          transaction := some (transact statements ending view).2 }) := by
  induction statements generalizing database view with
  | nil => simp only [body, transact, ← opened]
  | cons statement statements induction =>
      have executed := Connection.execute_open statement opened
      rcases ran : statement view with ⟨outcome, reached⟩
      rw [ran] at executed
      cases outcome with
      | error error =>
          rw [body, transact, Run.bind_error executed, Run.bind_error ran]
      | ok done =>
          rw [body, transact, Run.bind_ok executed, Run.bind_ok ran]
          exact induction rfl

/-- The `finally` block closes the connection unless the commit raises. -/
theorem Connection.finish_run (committing : Bool) (before : Database δ)
    (view : δ) :
    Connection.finish outside committing
        { before with transaction := some view } =
      settled outside committing (.ok ⟨⟩, view) before := by
  cases committing with
  | false => rfl
  | true =>
      cases failing : outside.commit with
      | none =>
          have committed : Connection.commit outside
              { before with transaction := some view } =
                (.ok ⟨⟩, { before with
                  committed := view, transaction := some view }) := by
            simp only [Connection.commit, failing]
          refine (Run.bind_ok committed).trans ?_
          simp only [settled, failing]
          rfl
      | some fault =>
          have raised : Connection.commit outside
              { before with transaction := some view } =
                (.error fault.error, { before with
                  committed :=
                    if fault.effective then view else before.committed
                  transaction := some view }) := by
            simp only [Connection.commit, failing]
            cases fault.effective <;> rfl
          refine (Run.bind_error raised).trans ?_
          simp only [settled, failing]

/-- The outcome of the body is the one of the call unless the commit raises. -/
theorem Connection.tryFinally_finish (committing : Bool)
    {body : Run (Database δ) Exn α} {before : Database δ}
    {ran : Except Exn α × δ}
    (did : body database =
      (ran.1, { before with transaction := some ran.2 })) :
    Run.tryFinally body (Connection.finish outside committing) database =
      settled outside committing ran before := by
  rw [Run.tryFinally, did, Connection.finish_run]
  cases committing with
  | false => rfl
  | true => cases failing : outside.commit <;> simp only [settled, failing]

/-- Once connected, both branches of the call go on in the same way. -/
theorem Connection.connected_run (committing : Bool)
    (arguments : ConnectArguments) (statements : List (Statement δ))
    (ending : Except Exn α)
    (connects : outside.connect database.tunnels arguments = none) :
    (do
        Connection.connect outside arguments
        Run.tryFinally (body statements ending)
          (Connection.finish outside committing)) database =
      settled outside committing
        (transact statements ending database.committed) database := by
  have connected : Connection.connect outside arguments database =
      (.ok ⟨⟩,
        { database with transaction := some database.committed }) := by
    simp only [Connection.connect, connects]
  rw [Run.bind_ok connected]
  exact Connection.tryFinally_finish outside committing
    (body_run statements ending rfl)

end Runs

namespace DatabaseClient

variable {client : DatabaseClient} {conf : DatabaseConf} {outside : Outside}
  {databaseName : Str} {before : Database δ}

/-- What a call leaves behind, in both branches. -/
theorem cursor_run (commit : Bool) (statements : List (Statement δ))
    (ending : Except Exn α)
    (reaches : client.Reaches conf outside databaseName before.tunnels) :
    client.cursor conf outside databaseName commit (body statements ending)
        before =
      settled outside commit (transact statements ending before.committed)
        before := by
  rw [cursor]
  cases internal : conf.internalIp.filter (· ≠ []) with
  | none =>
      rw [Reaches, internal] at reaches
      exact Connection.connected_run outside commit _ statements ending reaches
  | some internalIp =>
      rw [Reaches, internal] at reaches
      obtain ⟨starts, connects⟩ := reaches
      have ran := @Connection.connected_run δ α outside
        { before with
          tunnels := client.tunnel conf internalIp :: before.tunnels }
        commit (tunnelled conf databaseName) statements ending connects
      rw [settled_tunnels] at ran
      refine (sshTunnelForwarder_around starts ran).trans ?_
      simp only [List.tail_cons, ← tunnels_settled outside commit
        (transact statements ending before.committed) before]

/-- Without a commit the database keeps its state, and the connection is closed
however the body ends. -/
theorem cursor_without_commit (statements : List (Statement δ))
    (ending : Except Exn α)
    (reaches : client.Reaches conf outside databaseName before.tunnels) :
    client.cursor conf outside databaseName false (body statements ending)
        before =
      ((transact statements ending before.committed).1,
        { before with transaction := none, closes := before.closes + 1 }) :=
  cursor_run false statements ending reaches

variable (client conf outside databaseName before)

/-- The changes of the body are committed if it completes and only then, and
the connection is closed once. -/
def AllOrNothing (statements : List (Statement δ))
    (ending : Except Exn α) : Prop :=
  let alone := transact statements ending before.committed
  let after := (client.cursor conf outside databaseName true
    (body statements ending) before).2
  (∀ value, alone.1 = .ok value → after.committed = alone.2) ∧
    (∀ error, alone.1 = .error error → after.committed = before.committed) ∧
    after.closes = before.closes + 1

end DatabaseClient

open DatabaseClient in
/-- A call is all or nothing exactly if the commit does not raise, and the body
either completes or has changed nothing when it raises. -/
theorem cursor_allOrNothing_iff (client : DatabaseClient)
    (conf : DatabaseConf) (outside : Outside) (databaseName : Str)
    (before : Database δ) (statements : List (Statement δ))
    (ending : Except Exn α)
    (reaches : client.Reaches conf outside databaseName before.tunnels) :
    AllOrNothing client conf outside databaseName before statements ending ↔
      outside.commit = none ∧
        ((∃ value,
            (transact statements ending before.committed).1 = .ok value) ∨
          (transact statements ending before.committed).2 =
            before.committed) := by
  rw [AllOrNothing, cursor_run true statements ending reaches]
  rcases transact statements ending before.committed with ⟨outcome, view⟩
  cases failing : outside.commit with
  | some fault => simp [settled, failing]
  | none =>
      cases outcome with
      | ok value => simp [settled, failing]
      | error error => simp [settled, failing]

def ctlplane : DatabaseClient where
  sshKey := "/home/stack/.ssh/id_rsa".toList
  sshUser := "stack".toList

def databaseConf (internalIp : Option Str) : DatabaseConf where
  host := "controller-0".toList
  internalIp := internalIp
  user := "root".toList
  password := "secret".toList
  sshGatewayPort := 3306

/-- Nothing fails but possibly the commit. -/
def outsideWith (commit : Option Fault) : Outside where
  startTunnel := fun _ => none
  connect := fun _ _ => none
  commit := commit

def emptyTable : Database (List Nat) where
  committed := []
  transaction := none
  closes := 0
  tunnels := []

/-- A statement that inserts a row. -/
def insertRow (row : Nat) : Statement (List Nat) :=
  fun rows => (.ok ⟨⟩, rows ++ [row])

theorem cursor_allOrNothing_two_rows :
    DatabaseClient.AllOrNothing ctlplane
      (databaseConf (some "172.17.0.2".toList)) (outsideWith none)
      "nova".toList emptyTable [insertRow 1, insertRow 2]
      (.ok ()) :=
  (cursor_allOrNothing_iff ctlplane (databaseConf (some "172.17.0.2".toList))
    (outsideWith none) "nova".toList emptyTable [insertRow 1, insertRow 2]
    (.ok ()) ⟨rfl, rfl⟩).mpr ⟨rfl, .inl ⟨(), rfl⟩⟩

/-- The second statement is refused. -/
def insertAndRaise : Run (Database (List Nat)) Exn Unit :=
  body [insertRow 1, fun rows => (.error interfaceError, rows)] (.ok ())

/-- The row of a body that raises afterwards is committed in both branches, and
the connection stays open after a commit that raises. -/
theorem cursor_half_committed :
    let ran := fun internalIp commit =>
      (ctlplane.cursor (databaseConf internalIp) (outsideWith commit)
        "nova".toList true insertAndRaise emptyTable).2
    (ran none none).committed = [1] ∧
      (ran (some "172.17.0.2".toList) none).committed = [1] ∧
      (ran none (some ⟨interfaceError, false⟩)).closes = 0 ∧
      (ran (some "172.17.0.2".toList)
        (some ⟨interfaceError, false⟩)).closes = 0 := by
  refine ⟨?_, ?_, ?_, ?_⟩
  · rfl
  · rfl
  · rfl
  · rfl

end Whitebox.Services
