import TradeLedger.Proofs.CommandLine.Isolation

/-! The flag for an account. A flag has the argument behind its first occurrence, whatever that is, and
none where its first occurrence is the last argument. A profit report that names an account is made from
the lines and positions of that account alone, and it names the one that the flag has. A flag without an
argument counts as no flag, and the report is then on all accounts. -/
namespace TradeLedger

section Flags

variable {name value : String} {arguments : List String}

/-- The value stands behind the first argument that is the name. -/
def FollowsFirst (name value : String) (arguments : List String) : Prop :=
  ∃ before behind, arguments = before ++ name :: value :: behind ∧ name ∉ before

theorem flag?_eq_some : flag? name arguments = some value ↔ FollowsFirst name value arguments := by
  induction arguments with
  | nil => simp [flag?, FollowsFirst]
  | cons first rest ih =>
    rw [flag?]
    split
    case isTrue same =>
      subst same
      constructor
      · intro next
        obtain ⟨behind, rfl⟩ := List.head?_eq_some_iff.mp next
        exact ⟨[], behind, rfl, List.not_mem_nil⟩
      · rintro ⟨before, behind, listed, apart⟩
        -- The list begins with the name, so nothing can stand before its first occurrence.
        cases before with
        | nil =>
          cases listed
          rfl
        | cons other before =>
          cases listed
          exact absurd List.mem_cons_self apart
    case isFalse other =>
      rw [ih]
      constructor
      · rintro ⟨before, behind, rfl, apart⟩
        exact ⟨first :: before, behind, rfl, by simp [apart, Ne.symm other]⟩
      · rintro ⟨before, behind, listed, apart⟩
        cases before with
        | nil =>
          cases listed
          exact absurd rfl other
        | cons _ before =>
          cases listed
          exact ⟨before, behind, rfl, fun member => apart (List.mem_cons_of_mem first member)⟩

/-- A flag has no argument if no argument is the flag, or only the last one. -/
theorem flag?_eq_none : flag? name arguments = none ↔ name ∉ arguments.dropLast := by
  induction arguments with
  | nil => simp [flag?]
  | cons first rest ih =>
    cases rest with
    | nil => simp [flag?]
    | cons second rest =>
      rw [flag?, List.dropLast_cons_cons, List.mem_cons, not_or]
      split
      case isTrue same => simp [same]
      case isFalse other => rw [ih, and_iff_right (Ne.symm other)]

end Flags

namespace Scope

/-- The account that a scope is about; none if it is about all. -/
def account? : Scope → Option String
  | .all => none
  | .account name => some name
  | .symbol name _ => some name

variable {scope : Scope} {account : String}

theorem account_of_contains {name symbol : String} (about : scope.account? = some account)
    (within : scope.contains name symbol = true) : name = account := by
  cases scope with
  | all => cases about
  | account own =>
    cases about
    exact (beq_iff_eq.mp within).symm
  | symbol own ticker =>
    cases about
    exact (beq_iff_eq.mp (Bool.and_eq_true_iff.mp within).1).symm

/-- What is in a scope about an account is in it among what is of the account. -/
theorem filter_of_account {α : Type} (accountOf symbolOf : α → String) (about : scope.account? = some account)
    (xs : List α) :
    (xs.filter fun x => accountOf x = account).filter (fun x => scope.contains (accountOf x) (symbolOf x)) =
      xs.filter fun x => scope.contains (accountOf x) (symbolOf x) := by
  rw [List.filter_comm, List.filter_eq_self]
  intro x member
  have within := List.of_mem_filter (p := fun x => scope.contains (accountOf x) (symbolOf x)) member
  exact decide_eq_true (account_of_contains about within)

end Scope

/-- The lines of an account. -/
def linesOf (account : String) (lines : List LedgerLine) : List LedgerLine :=
  lines.filter fun line => line.account = account

/-- The positions of an account. -/
def positionsOf (account : String) (positions : List Position) : List Position :=
  positions.filter fun position => position.account = account

namespace Curve

variable {policy : ShortSales} {lines : List LedgerLine} {positions : List Position} {scope : Scope} {account : String}
  {today : Date}

/-- The curve of a scope about an account is drawn from the lines and the positions of the account. -/
theorem reconstruct_linesOf (about : scope.account? = some account) :
    reconstruct policy (linesOf account lines) (positionsOf account positions) scope today =
      reconstruct policy lines positions scope today := by
  have sameLines : linesIn scope (linesOf account lines) = linesIn scope lines :=
    Scope.filter_of_account LedgerLine.account LedgerLine.symbol about lines
  have samePositions : positionsIn scope (positionsOf account positions) = positionsIn scope positions :=
    Scope.filter_of_account Position.account Position.symbol about positions
  rw [reconstruct, realized, sameLines, samePositions]
  rfl

/-- So are the curves of its symbols. -/
theorem reconstructBySymbol_linesOf :
    reconstructBySymbol policy (linesOf account lines) (positionsOf account positions) account today =
      reconstructBySymbol policy lines positions account today := by
  have symbols : symbolsOf account (linesOf account lines) = symbolsOf account lines := by
    have own : ((linesOf account lines).filter (·.account == account)) = lines.filter (·.account == account) := by
      rw [linesOf, List.filter_filter]
      apply List.filter_congr
      simp
    rw [symbolsOf, own, symbolsOf]
  rw [reconstructBySymbol, symbols, reconstructBySymbol]
  congr 1
  refine mapM_congr fun symbol _ => ?_
  rw [reconstruct_linesOf (show (Scope.symbol account symbol).account? = some account from rfl)]

end Curve

/-- The printout is on one account: it names the account, and what it shows is drawn from the lines and
the positions of the account alone. -/
inductive Printout.LimitedTo (account : String) (policy : ShortSales) (lines : List LedgerLine)
    (positions : List Position) (today : Date) : Printout → Prop
  | curve {scope : Scope} {curve : Curve} (about : scope.account? = some account)
      (drawn : Curve.reconstruct policy (linesOf account lines) (positionsOf account positions) scope today =
        .ok curve) :
      LimitedTo account policy lines positions today (.curve scope curve)
  | curvesBySymbol {curves : List (String × Curve)}
      (drawn : Curve.reconstructBySymbol policy (linesOf account lines) (positionsOf account positions) account today =
        .ok curves) :
      LimitedTo account policy lines positions today (.curvesBySymbol account curves)

namespace Session

variable {session : Session} {database : Store.Database} {disk : Store.Disk} {lines : List LedgerLine}
  {positions : List Position} {printout : Printout}

/-- The session sees these lines and positions: they are those of the accounts of its settings in the
database that it opens. -/
def Sees (session : Session) (disk : Store.Disk) (lines : List LedgerLine) (positions : List Position) : Prop :=
  ∃ database, session.openOn disk = .ok database ∧ database.tradeLines session.settings.accounts = .ok lines ∧
    database.openPositions session.settings.accounts = .ok positions

/-- The profit report on lines and positions that the flags ask for. -/
inductive Draws (session : Session) (lines : List LedgerLine) (positions : List Position) : Printout → Prop
  | curve {scope : Scope} {curve : Curve} (together : "--by-symbol" ∉ session.arguments)
      (chosen : session.scope = .ok scope)
      (drawn : Curve.reconstruct session.settings.shortSales lines positions scope session.today = .ok curve) :
      Draws session lines positions (.curve scope curve)
  | curvesBySymbol {account : String} {curves : List (String × Curve)} (apart : "--by-symbol" ∈ session.arguments)
      (named : session.flag? "--account" = some account)
      (drawn : Curve.reconstructBySymbol session.settings.shortSales lines positions account session.today =
        .ok curves) :
      Draws session lines positions (.curvesBySymbol account curves)

/-- The command prints a report on the lines and positions of the database and no other. -/
theorem pnl_eq_ok : session.pnl database = .ok printout ↔
    ∃ lines positions, database.tradeLines session.settings.accounts = .ok lines ∧
      database.openPositions session.settings.accounts = .ok positions ∧ session.Draws lines positions printout := by
  rw [pnl]
  constructor
  · intro printed
    obtain ⟨lines, read, printed⟩ := bind_eq_ok.mp printed
    obtain ⟨positions, read', printed⟩ := bind_eq_ok.mp printed
    refine ⟨lines, positions, mapError_eq_ok.mp read, mapError_eq_ok.mp read', ?_⟩
    dsimp only at printed
    split at printed
    case isTrue apart =>
      split at printed
      · cases printed
      case h_2 account named =>
        obtain ⟨curves, drawn, printed⟩ := bind_eq_ok.mp printed
        cases printed
        exact .curvesBySymbol (List.contains_iff_mem.mp apart) named (mapError_eq_ok.mp drawn)
    case isFalse together =>
      obtain ⟨scope, chosen, printed⟩ := bind_eq_ok.mp printed
      obtain ⟨curve, drawn, printed⟩ := bind_eq_ok.mp printed
      cases printed
      exact .curve (fun member => together (List.contains_iff_mem.mpr member)) chosen (mapError_eq_ok.mp drawn)
  · rintro ⟨lines, positions, read, read', draws⟩
    rw [mapError_eq_ok.mpr read, ok_bind, mapError_eq_ok.mpr read', ok_bind]
    dsimp only
    cases draws with
    | curve together chosen drawn =>
      rw [if_neg (mt List.contains_iff_mem.mp together), chosen, ok_bind, mapError_eq_ok.mpr drawn]
      rfl
    | curvesBySymbol apart named drawn =>
      rw [if_pos (List.contains_iff_mem.mpr apart), named]
      dsimp only
      rw [mapError_eq_ok.mpr drawn]
      rfl

/-- The scope is about the account that the flag has. -/
theorem account?_of_scope {scope : Scope} (chosen : session.scope = .ok scope) :
    scope.account? = session.flag? "--account" := by
  rw [Session.scope] at chosen
  split at chosen
  case h_1 account _ named _ =>
    cases chosen
    exact named.symm
  case h_2 account named _ =>
    cases chosen
    exact named.symm
  case h_3 unnamed _ =>
    cases chosen
    exact unnamed.symm
  case h_4 => cases chosen

/-- Where the flag has none, the scope is all, and no symbol is named. -/
theorem all_of_scope {scope : Scope} (chosen : session.scope = .ok scope)
    (unnamed : session.flag? "--account" = none) : scope = .all ∧ session.flag? "--symbol" = none := by
  cases symbol : session.flag? "--symbol" with
  | none =>
    rw [Session.scope, unnamed, symbol] at chosen
    cases chosen
    exact ⟨rfl, rfl⟩
  | some ticker =>
    rw [Session.scope, unnamed, symbol] at chosen
    cases chosen

/-- A report is on the account that the flag has, -/
theorem Draws.limited {account : String} (draws : session.Draws lines positions printout)
    (named : session.flag? "--account" = some account) :
    printout.LimitedTo account session.settings.shortSales lines positions session.today := by
  cases draws with
  | @curve scope curve together chosen drawn =>
    have about : scope.account? = some account := (account?_of_scope chosen).trans named
    rw [← Curve.reconstruct_linesOf about] at drawn
    exact .curve about drawn
  | curvesBySymbol apart own drawn =>
    cases own.symm.trans named
    rw [← Curve.reconstructBySymbol_linesOf] at drawn
    exact .curvesBySymbol drawn

/-- and if it has none, on all accounts in one curve. -/
theorem Draws.unlimited (draws : session.Draws lines positions printout)
    (unnamed : session.flag? "--account" = none) :
    (∃ curve, printout = .curve .all curve) ∧ "--by-symbol" ∉ session.arguments ∧
      session.flag? "--symbol" = none := by
  cases draws with
  | @curve scope curve together chosen drawn =>
    obtain ⟨rfl, symbol⟩ := all_of_scope chosen unnamed
    exact ⟨⟨curve, rfl⟩, together, symbol⟩
  | curvesBySymbol apart own drawn => cases own.symm.trans unnamed

end Session

variable {arguments : List String} {environment : Environment} {clock : Date} {disk : Store.Disk}
  {printout : Printout}

/-- A run whose command is `pnl` prints the profit report that its flags ask for. -/
theorem run_pnl_eq_ok (asked : arguments[1]? = some "pnl") : run arguments environment clock disk = .ok printout ↔
    ∃ session lines positions, Session.ofArguments arguments environment clock = .ok session ∧
      session.Sees disk lines positions ∧ session.Draws lines positions printout := by
  have command : ∀ session, Session.ofArguments arguments environment clock = .ok session →
      ∀ database, session.answer database = session.pnl database := by
    intro session made database
    obtain ⟨given, _⟩ := Session.ofArguments_eq_ok.mp made
    have pnl : session.command = "pnl" := (Option.some.inj (asked.symm.trans given)).symm
    rw [Session.answer, pnl]
    rfl
  constructor
  · intro ran
    obtain ⟨session, made, ran⟩ := bind_eq_ok.mp ran
    obtain ⟨database, opened, ran⟩ := bind_eq_ok.mp ran
    rw [command session made] at ran
    obtain ⟨lines, positions, read, read', draws⟩ := Session.pnl_eq_ok.mp ran
    exact ⟨session, lines, positions, made, ⟨database, opened, read, read'⟩, draws⟩
  · rintro ⟨session, lines, positions, made, ⟨database, opened, read, read'⟩, draws⟩
    rw [run, made, ok_bind, Session.report, opened, ok_bind, command session made]
    exact Session.pnl_eq_ok.mpr ⟨lines, positions, read, read', draws⟩

/-- A flag for an account limits the profit report if it has an argument. What a run prints is limited to the
account behind the first `--account` exactly if some `--account` has an argument behind it. Otherwise it is on
all accounts, and the run was asked neither for the curves of the symbols nor for that of one symbol, since it
would have failed. -/
theorem run_limited_iff (asked : arguments[1]? = some "pnl")
    (ran : run arguments environment clock disk = .ok printout) :
    ∃ session lines positions, Session.ofArguments arguments environment clock = .ok session ∧
      session.Sees disk lines positions ∧
      ((∃ account, FollowsFirst "--account" account arguments ∧
          printout.LimitedTo account session.settings.shortSales lines positions session.today) ↔
        "--account" ∈ arguments.dropLast) ∧
      ((∃ curve, printout = .curve .all curve) ↔ "--account" ∉ arguments.dropLast) ∧
      ("--account" ∉ arguments.dropLast → "--by-symbol" ∉ arguments ∧ "--symbol" ∉ arguments.dropLast) := by
  obtain ⟨session, lines, positions, made, sees, draws⟩ := (run_pnl_eq_ok asked).mp ran
  obtain ⟨_, _, _, same, _⟩ := Session.ofArguments_eq_ok.mp made
  refine ⟨session, lines, positions, made, sees, ?_⟩
  subst same
  cases named : session.flag? "--account" with
  | none =>
    have absent := flag?_eq_none.mp named
    obtain ⟨⟨curve, rfl⟩, together, symbol⟩ := draws.unlimited named
    refine ⟨iff_of_false ?_ absent, iff_of_true ⟨curve, rfl⟩ absent, fun _ => ⟨together, ?_⟩⟩
    · rintro ⟨account, follows, _⟩
      cases named.symm.trans (flag?_eq_some.mpr follows)
    · exact flag?_eq_none.mp symbol
  | some account =>
    have present : "--account" ∈ session.arguments.dropLast := by
      by_contra absent
      cases named.symm.trans (flag?_eq_none.mpr absent)
    have limited := draws.limited named
    refine ⟨iff_of_true ⟨account, flag?_eq_some.mp named, limited⟩ present, iff_of_false ?_ (not_not.mpr present),
      fun absent => absurd present absent⟩
    rintro ⟨curve, rfl⟩
    -- A limited printout names an account, which the scope of all accounts does not.
    cases limited with
    | curve about _ => cases about

/-- How many points a printout shows on the curve of a scope. -/
def Printout.pointsIn? (scope : Scope) : Printout → Option ℕ
  | .curve own points => if own = scope then some points.length else none
  | _ => none

theorem Printout.pointsIn?_eq_some {scope : Scope} {count : ℕ} :
    printout.pointsIn? scope = some count ↔ ∃ points, printout = .curve scope points ∧ points.length = count := by
  cases printout with
  | curve own points =>
    rw [pointsIn?]
    constructor
    · intro shown
      split at shown
      case isTrue same =>
        subst same
        exact ⟨points, rfl, Option.some.inj shown⟩
      case isFalse => cases shown
    · rintro ⟨_, same, rfl⟩
      cases same
      rw [if_pos rfl]
  | _ => simp [pointsIn?]

/-- An environment without variables. -/
def noVariables : Environment := fun _ => none

/-- A flag for the account B, and another at the end that has no argument. -/
def twoFlags : List String :=
  ["dashboard-cli", "pnl", "--symbol", "x", "--account", "B", "--today", "2024-06-30", "--account"]

theorem first_flag_limits : ∃ curve session lines positions,
    run twoFlags noVariables ⟨9, by decide, by decide⟩ (diskOf visibleRows) =
        .ok (.curve (.symbol "B" "X") curve) ∧
      curve.length = 1 ∧ Session.ofArguments twoFlags noVariables ⟨9, by decide, by decide⟩ = .ok session ∧
      session.Sees (diskOf visibleRows) lines positions ∧
      (Printout.curve (.symbol "B" "X") curve).LimitedTo "B" session.settings.shortSales lines positions
        session.today := by
  have drawn : (run twoFlags noVariables ⟨9, by decide, by decide⟩ (diskOf visibleRows)).map
      (·.pointsIn? (.symbol "B" "X")) = .ok (some 1) := by decide +kernel
  obtain ⟨printout, ran, shown⟩ := map_eq_ok.mp drawn
  obtain ⟨curve, rfl, one⟩ := Printout.pointsIn?_eq_some.mp shown
  obtain ⟨session, lines, positions, made, sees, limited, _⟩ := run_limited_iff rfl ran
  obtain ⟨account, follows, limited⟩ := limited.mpr (by decide)
  have named : some "B" = some account := flag?_eq_some.mpr follows
  cases named
  exact ⟨curve, session, lines, positions, ran, one, made, sees, limited⟩

/-- A flag for an account without one. -/
def lastFlag : List String := ["dashboard-cli", "pnl", "--today", "2024-06-30", "--account"]

/-- The run prints a report on both accounts, with a day of each. -/
theorem last_flag_shows_all : lastFlag[1]? = some "pnl" ∧ "--account" ∈ lastFlag.drop 2 ∧
    ∃ curve, run lastFlag noVariables ⟨9, by decide, by decide⟩ (diskOf visibleRows) = .ok (.curve .all curve) ∧
      curve.length = 2 := by
  have drawn : (run lastFlag noVariables ⟨9, by decide, by decide⟩ (diskOf visibleRows)).map
      (·.pointsIn? .all) = .ok (some 2) := by decide +kernel
  obtain ⟨printout, ran, shown⟩ := map_eq_ok.mp drawn
  obtain ⟨curve, rfl, two⟩ := Printout.pointsIn?_eq_some.mp shown
  exact ⟨rfl, by decide, curve, ran, two⟩

end TradeLedger
