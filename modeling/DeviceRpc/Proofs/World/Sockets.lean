import DeviceRpc.World.Network
import DeviceRpc.Proofs.World.Files

/-!
# Sockets at a path

Who listens at a path, and what a bind and a drop there do to what stands there, in any order and
with other processes that make and remove files at the same path. A bind looks first: it removes a
socket that nobody answers on, and nothing else (`Network.listen_spares`). A drop does not look: it
removes what stands at the path, a directory apart, and that is the listener's own socket as long
as nobody else removed the socket of a listener that was alive (`Network.Housed`, which every
happening keeps). Once somebody did, the path may be taken by another, and what the drop removes is
not its own.
-/

namespace DeviceRpc

namespace Network

variable {n n' : Network} {path : String} {id other : ListenerId}

/-- The endpoint of each listener, and whether it is alive. -/
def holders (n : Network) : List (Endpoint × Bool) :=
  n.listeners.map fun l => (l.endpoint, l.isOpen)

/-- A listener at a path is alive. -/
def Listens (n : Network) (path : String) (id : ListenerId) : Prop :=
  n.holders[id]? = some (.unix path, true)

/-- A socket that nobody answers on. -/
def Stale (n : Network) (kind : FileKind) : Prop :=
  ∃ listener, kind = .socket listener ∧ n.answers listener = none

/-- Whoever dials a socket at a path gets through just if somebody answers on it. -/
def Connects (n : Network) (path : String) : Prop :=
  ∀ listener, n.files.find path = .ok (.socket listener) →
    ((∃ h, (n.dialPath path).2 = .ok h) ↔ (n.answers listener).isSome)

/-- Every listener that is alive at a path has its own socket there. -/
def Housed (n : Network) (path : String) : Prop :=
  ∀ id, n.Listens path id → n.files.find path = .ok (.socket (some id))

/-! ## Who is alive -/

theorem answers_of_listens (alive : n.Listens path id) : n.answers (some id) = some id := by
  rw [Listens, holders, List.getElem?_map] at alive
  obtain ⟨l, here, same⟩ := Option.map_eq_some_iff.mp alive
  have isOpen : l.isOpen = true := congrArg Prod.snd same
  simp [answers, here, isOpen]

theorem Listens.not_stale (alive : n.Listens path id) : ¬ n.Stale (.socket (some id)) := by
  rintro ⟨_, ⟨⟩, nobody⟩
  cases nobody.symm.trans (answers_of_listens alive)

theorem getElem?_holders_onListener {f : Listener → Listener} (i : Nat) :
    (n.onListener id f).holders[i]? =
      if id = i then n.listeners[i]?.map fun l => ((f l).endpoint, (f l).isOpen)
      else n.holders[i]? := by
  simp only [holders, onListener, List.getElem?_map, List.getElem?_modify]
  cases n.listeners[i]? <;> split <;> rfl

theorem holders_dialPath (n : Network) (path : String) :
    (n.dialPath path).1.holders = n.holders := by
  unfold dialPath
  split <;> try rfl
  split
  · next id _ =>
    apply List.ext_getElem?
    intro i
    rw [getElem?_holders_onListener]
    split
    · exact (List.getElem?_map ..).symm
    · rfl
  · rfl

theorem files_dialPath (n : Network) (path : String) : (n.dialPath path).1.files = n.files := by
  unfold dialPath
  split <;> try rfl
  split <;> rfl

theorem same_of_dialPath {r : Except LinkFailure Handle} (dialed : n.dialPath path = (n', r)) :
    n'.holders = n.holders ∧ n'.files = n.files := by
  have holders := holders_dialPath n path
  have files := files_dialPath n path
  rw [dialed] at holders files
  exact ⟨holders, files⟩

theorem foldl_onConnection (f : Connection → Connection) (cs : List ConnectionId) :
    ∃ connections, cs.foldl (fun n c => n.onConnection c f) n = { n with connections } := by
  induction cs generalizing n with
  | nil => exact ⟨_, rfl⟩
  | cons c cs ih => exact ih

/-- A listener at a path that goes is closed, and only where it is dropped, something is removed at
the path. -/
theorem unlisten_alive (alive : n.Listens path id) (remove : Bool) :
    (n.unlisten id remove).holders
        = (n.onListener id ({ · with isOpen := false, backlog := [] })).holders ∧
      (n.unlisten id remove).files = if remove then n.files.remove path else n.files := by
  rw [Listens, holders, List.getElem?_map] at alive
  obtain ⟨l, here, same⟩ := Option.map_eq_some_iff.mp alive
  have endpoint : l.endpoint = .unix path := congrArg Prod.fst same
  obtain ⟨connections, hungUp⟩ :=
    foldl_onConnection (n := n) (·.hangUp .acceptor true) l.backlog
  simp only [unlisten, here, hungUp, endpoint]
  cases remove <;> exact ⟨rfl, rfl⟩

theorem listens_unlisten (alive : n.Listens path id) (remove : Bool) :
    (n.unlisten id remove).Listens path other ↔ n.Listens path other ∧ other ≠ id := by
  rw [Listens, (unlisten_alive alive remove).1, getElem?_holders_onListener]
  split
  · next same =>
    subst same
    cases n.listeners[id]? <;> simp
  · next away => simp [Listens, Ne.symm away]

/-! ## Binding -/

theorem connects_of_fit (fit : unfitPath path = none) : n.Connects path := by
  intro listener found
  simp only [dialPath, fit, found]
  cases n.answers listener <;> simp

/-- Room is made where nothing stands, or by removing a socket that nobody answers on. -/
theorem clearStale_ok (connects : n.Connects path) (cleared : n.clearStale path = (n', .ok ())) :
    n'.holders = n.holders ∧ n'.files.find path = .error .missing ∧
      n.files.Spares n'.files n.Stale ∧
      ∀ kind, n.files.find path = .ok kind → n.Stale kind := by
  unfold clearStale at cleared
  split at cleared
  · next missing =>
    cases cleared
    refine ⟨rfl, missing, .refl, fun kind found => ?_⟩
    cases missing.symm.trans found
  · cases cleared
  · next listener found =>
    split at cleared
    · cases cleared
    · next after fault dialed =>
      cases cleared
      obtain ⟨holders, files⟩ := same_of_dialPath dialed
      have stale : n.Stale (.socket listener) := by
        refine ⟨listener, rfl, Option.not_isSome_iff_eq_none.mp fun answered => ?_⟩
        obtain ⟨h, through⟩ := (connects listener found).mpr answered
        rw [dialed] at through
        cases through
      have found' : after.files.find path = .ok (.socket listener) := files ▸ found
      refine ⟨holders, Files.find_remove found' (by rintro ⟨⟩), ?_, ?_⟩
      · rw [← files]
        refine Files.spares_remove_iff.mpr fun kind here => .inr ?_
        cases found'.symm.trans here
        exact stale
      · intro kind here
        cases found.symm.trans here
        exact stale
  · cases cleared

theorem clearStale_error {e : LinkFailure} (refused : n.clearStale path = (n', .error e)) :
    n'.holders = n.holders ∧ n'.files = n.files := by
  unfold clearStale at refused
  split at refused
  · cases refused
  · cases refused
    exact ⟨rfl, rfl⟩
  · split at refused
    · next after h dialed =>
      cases refused
      obtain ⟨holders, files⟩ := same_of_dialPath dialed
      exact ⟨holders, files⟩
    · cases refused
  · cases refused
    exact ⟨rfl, rfl⟩

theorem bindPath_ok (bound : n.bindPath path = (n', .ok id)) :
    n'.holders = n.holders ++ [(.unix path, true)] ∧ id = n.holders.length ∧
      ∃ place, n.files.vacancy path = .ok place ∧
        n'.files = n.files.putAt place (.socket (some id)) := by
  unfold bindPath at bound
  split at bound
  · cases bound
  · cases bound
  · next place _ vacancy =>
    cases bound
    simp [holders, vacancy]

theorem bindPath_error {e : LinkFailure} (refused : n.bindPath path = (n', .error e)) :
    n' = n ∧ ∀ message, e ≠ .invalidAddress message := by
  unfold bindPath at refused
  split at refused
  · next _ unfit =>
    cases refused
    refine ⟨rfl, ?_⟩
    rintro message rfl
    dsimp only [unfitPath] at unfit
    split at unfit
    · cases unfit
    · split at unfit <;> cases unfit
  · cases refused
    exact ⟨rfl, fun _ => by rintro ⟨⟩⟩
  · cases refused

/-- A free path is bound. -/
theorem listen_of_missing {place : Place} (fit : unfitPath path = none)
    (missing : n.files.find path = .error .missing) (vacancy : n.files.vacancy path = .ok place) :
    ∃ n', n.listen (.unix path) = (n', .ok n.holders.length) ∧
      n'.holders = n.holders ++ [(.unix path, true)] ∧
      n'.files.find path = .ok (.socket (some n.holders.length)) := by
  have room : n.clearStale path = (n, .ok ()) := by simp only [clearStale, missing]
  have bound : n.bindPath path = ({ n with
      files := n.files.putAt place (.socket (some n.listeners.length))
      listeners := n.listeners ++ [{ endpoint := .unix path }] }, .ok n.listeners.length) := by
    simp only [bindPath, fit, vacancy]
    rfl
  have count : n.listeners.length = n.holders.length := (List.length_map _).symm
  rw [count] at bound
  refine ⟨_, by simp only [listen, room, bound], (bindPath_ok bound).1, ?_⟩
  exact Files.find_putAt missing vacancy

/-- **A bind removes a socket that nobody answers on, or nothing.** -/
theorem listen_spares (connects : n.Connects path) :
    n.files.Spares (n.listen (.unix path)).1.files n.Stale := by
  unfold listen
  dsimp only
  split
  · next after cleared =>
    obtain ⟨-, missing, spares, -⟩ := clearStale_ok connects cleared
    cases bound : after.bindPath path with
    | mk n' r =>
      cases r with
      | ok id =>
        obtain ⟨-, -, place, vacancy, files⟩ := bindPath_ok bound
        rw [files]
        exact spares.putAt missing vacancy
      | error e =>
        rw [(bindPath_error bound).1]
        exact spares
  · next refused =>
    rw [(clearStale_error refused).2]
    exact .refl

/-- A bind that finds the address invalid leaves everything as it was. -/
theorem files_listen_of_invalid {message : String}
    (invalid : (n.listen (.unix path)).2 = .error (.invalidAddress message)) :
    (n.listen (.unix path)).1.files = n.files := by
  unfold listen at invalid ⊢
  dsimp only at invalid ⊢
  split
  · next after cleared =>
    rw [cleared] at invalid
    exact absurd rfl ((bindPath_error (Prod.ext rfl invalid)).2 message)
  · next refused => exact (clearStale_error refused).2

/-! ## Everybody's own socket -/

theorem listens_congr (holders : n'.holders = n.holders) :
    n'.Listens path id ↔ n.Listens path id := by
  rw [Listens, holders, Listens]

theorem Housed.congr (housed : n.Housed path) (holders : n'.holders = n.holders)
    (files : n'.files = n.files) : n'.Housed path := by
  intro id alive
  rw [files]
  exact housed id ((listens_congr holders).mp alive)

theorem Housed.of_deserted (deserted : ∀ id, ¬ n.Listens path id) : n.Housed path :=
  fun id alive => absurd alive (deserted id)

/-- Nobody is alive where nothing stands, or nothing but a socket that nobody answers on. -/
theorem Housed.deserted (housed : n.Housed path)
    (stale : ∀ kind, n.files.find path = .ok kind → n.Stale kind) : ¬ n.Listens path id :=
  fun alive => alive.not_stale (stale _ (housed id alive))

/-- Once the only listener that can be alive at a path goes, nobody is. -/
theorem Housed.deserted_unlisten (housed : n.Housed path) (alive : n.Listens path id)
    (remove : Bool) : ¬ (n.unlisten id remove).Listens path other := by
  rintro alive'
  obtain ⟨alive', away⟩ := (listens_unlisten alive remove).mp alive'
  cases (housed id alive).symm.trans (housed other alive')
  exact away rfl

/-- Who binds a path that is free has it alone. -/
theorem housed_bindPath (deserted : ∀ id, ¬ n.Listens path id)
    (missing : n.files.find path = .error .missing) : (n.bindPath path).1.Housed path := by
  cases bound : n.bindPath path with
  | mk n' r =>
    cases r with
    | error e =>
      rw [(bindPath_error bound).1]
      exact .of_deserted deserted
    | ok id =>
      obtain ⟨holders, rfl, place, vacancy, files⟩ := bindPath_ok bound
      intro other alive
      rw [Listens, holders, List.getElem?_append] at alive
      split at alive
      · exact absurd alive (deserted other)
      · next behind =>
        have last : other = n.holders.length := by
          obtain ⟨first, -⟩ := List.getElem?_eq_some_iff.mp alive
          have within := Nat.sub_eq_zero_iff_le.mp (Nat.lt_one_iff.mp first)
          exact Nat.le_antisymm within (Nat.not_lt.mp behind)
        rw [last, files]
        exact Files.find_putAt missing vacancy

theorem Housed.listen (housed : n.Housed path) (connects : n.Connects path) :
    (n.listen (.unix path)).1.Housed path := by
  unfold Network.listen
  dsimp only
  split
  · next after cleared =>
    obtain ⟨holders, missing, -, stale⟩ := clearStale_ok connects cleared
    refine housed_bindPath (fun id alive => ?_) missing
    exact housed.deserted stale ((listens_congr holders).mp alive)
  · next refused =>
    obtain ⟨holders, files⟩ := clearStale_error refused
    exact housed.congr holders files

/-! ## What happens at a path -/

/-- What may happen at a path. -/
inductive Happening where
  /-- A listener is bound there, or refused. -/
  | bind (result : Except LinkFailure ListenerId)
  /-- A listener there is dropped. -/
  | drop (id : ListenerId)
  /-- The process of a listener there ends before it is dropped. -/
  | die (id : ListenerId)
  /-- Another process makes a file, if nothing stands there. -/
  | create (kind : FileKind)
  /-- Another process listens, where nothing stands. -/
  | settle (result : Except LinkFailure ListenerId)
  /-- Another process removes the file that stands there. -/
  | remove
  /-- Somebody dials, is accepted, or whatever else has nothing to do with files. -/
  | converse

/-- A network before and after something happens at a path. -/
inductive Step (path : String) (n : Network) : Happening → Network → Prop where
  | bind : Step path n (.bind (n.listen (.unix path)).2) (n.listen (.unix path)).1
  | drop {id : ListenerId} : n.Listens path id → Step path n (.drop id) (n.unlisten id true)
  | die {id : ListenerId} : n.Listens path id → Step path n (.die id) (n.unlisten id false)
  | create {kind : FileKind} : kind ≠ .directory →
      Step path n (.create kind) { n with files := n.files.put path kind }
  | settle : n.files.find path = .error .missing →
      Step path n (.settle (n.bindPath path).2) (n.bindPath path).1
  | remove : Step path n .remove { n with files := n.files.remove path }
  | converse {n' : Network} : n'.files = n.files → n'.holders = n.holders →
      Step path n .converse n'

/-- What happened and to which network, the last first. -/
abbrev Record := List (Network × Happening)

/-- One thing happens after another, and all is on record. -/
inductive Run (path : String) (start : Network) : Record → Network → Prop where
  | start : Run path start [] start
  | step {record : Record} {n n' : Network} {h : Happening} : Run path start record n →
      Step path n h n' → Run path start ((n, h) :: record) n'

/-- Another process removes the socket of a listener that is alive. -/
def Robs (path : String) (moment : Network × Happening) : Prop :=
  moment.2 = .remove ∧ ∃ id, moment.1.Listens path id ∧
    moment.1.files.find path = .ok (.socket (some id))

variable {start : Network} {record : Record}

theorem Step.housed {h : Happening} (step : Step path n h n') (housed : n.Housed path)
    (connects : n.Connects path) (honest : ¬ Robs path (n, h)) : n'.Housed path := by
  cases step with
  | bind => exact housed.listen connects
  | drop alive => exact .of_deserted fun other => housed.deserted_unlisten alive true
  | die alive => exact .of_deserted fun other => housed.deserted_unlisten alive false
  | create leaf =>
    intro id alive
    have found := housed id alive
    rw [← found]
    exact congrArg (Files.find · path) (Files.put_of_find found leaf)
  | settle missing =>
    refine housed_bindPath (fun id alive => ?_) missing
    cases missing.symm.trans (housed id alive)
  | remove =>
    intro id alive
    exact absurd ⟨rfl, id, alive, housed id alive⟩ honest
  | converse files holders => exact housed.congr holders files

/-- As long as nobody is robbed, everybody who is alive has its own socket at the path. -/
theorem Run.housed (run : Run path start record n) (housed : start.Housed path)
    (connects : ∀ n : Network, n.Connects path)
    (honest : ∀ moment ∈ record, ¬ Robs path moment) : n.Housed path := by
  induction run with
  | start => exact housed
  | step _ step ih =>
    obtain ⟨now, before⟩ := List.forall_mem_cons.mp honest
    exact step.housed (ih before) (connects _) now

theorem Step.of_bind {r : Except LinkFailure ListenerId} (step : Step path n (.bind r) n') :
    n.listen (.unix path) = (n', r) := by
  cases step
  rfl

theorem Step.of_drop (step : Step path n (.drop id) n') :
    n.Listens path id ∧ n'.files = n.files.remove path := by
  cases step with
  | drop alive => exact ⟨alive, (unlisten_alive alive true).2⟩

/-- A listener is bound to a path that is free. -/
theorem Run.bound {place : Place} (run : Run path start record n) (fit : unfitPath path = none)
    (missing : n.files.find path = .error .missing) (vacancy : n.files.vacancy path = .ok place) :
    ∃ n', Run path start ((n, .bind (.ok n.holders.length)) :: record) n' ∧
      n'.holders = n.holders ++ [(.unix path, true)] ∧
      n'.files.find path = .ok (.socket (some n.holders.length)) := by
  obtain ⟨n', listened, holders, found⟩ := listen_of_missing fit missing vacancy
  have run' := run.step .bind
  rw [listened] at run'
  exact ⟨n', run', holders, found⟩

theorem walk_plain (stands : Place → Option Bool) :
    Path.walk stands "a.sock" = .ok ["a.sock"] := by
  have start : Path.start "a.sock" = [] := by decide +kernel
  rw [Path.walk, start]
  rfl

theorem vacancy_plain (files : Files) : files.vacancy "a.sock" = .ok ["a.sock"] :=
  Files.vacancy_eq_ok_iff.mpr ⟨walk_plain _, by decide +kernel⟩

theorem fit_plain : unfitPath "a.sock" = none := by decide

/-- **Listeners spare what is not theirs**, as far as they look. A bind takes away nothing but a
socket that nobody answers on, and where it finds the address invalid, it changes no file. A drop
takes away what stands at the path, so it spares everything but the listener's own socket just if
nothing else stands there, a directory apart; and so it is, after whatever sequence of binds, drops
and doings of other processes, as long as none of them removed the socket of a listener that was
alive. -/
theorem others_spared (connects : ∀ n : Network, n.Connects path) (housed : start.Housed path)
    (run : Run path start record n) :
    (∀ r n', Step path n (.bind r) n' → n.files.Spares n'.files n.Stale ∧
      ∀ message, r = .error (.invalidAddress message) → n'.files = n.files) ∧
    ∀ id n', Step path n (.drop id) n' →
      (n.files.Spares n'.files (· = .socket (some id)) ↔ ∀ kind, n.files.find path = .ok kind →
        kind = .directory ∨ kind = .socket (some id)) ∧
      ((∀ moment ∈ record, ¬ Robs path moment) →
        n.files.find path = .ok (.socket (some id)) ∧ n'.files.find path = .error .missing ∧
        n.files.Spares n'.files (· = .socket (some id))) := by
  refine ⟨fun r n' step => ?_, fun id n' step => ?_⟩
  · have listened := step.of_bind
    have spares := listen_spares (connects n)
    rw [listened] at spares
    refine ⟨spares, fun message invalid => ?_⟩
    have same := files_listen_of_invalid ((congrArg Prod.snd listened).trans invalid)
    rwa [listened] at same
  · obtain ⟨alive, removed⟩ := step.of_drop
    rw [removed]
    refine ⟨Files.spares_remove_iff, fun honest => ?_⟩
    have own := run.housed housed connects honest id alive
    refine ⟨own, Files.find_remove own (by rintro ⟨⟩), ?_⟩
    refine Files.spares_remove_iff.mpr fun kind found => .inr ?_
    exact Except.ok.inj (found.symm.trans own)

/-- Another process has a file at the path and removes it; a listener is bound there, and when it is
dropped, its socket goes. -/
theorem others_spared_reused : ∃ record n n',
    Run "a.sock" { files := [(["a.sock"], .regular)] } record n ∧
      record.map Prod.snd = [.bind (.ok 0), .remove] ∧ Step "a.sock" n (.drop 0) n' ∧
      n'.files.find "a.sock" = .error .missing ∧
      n.files.Spares n'.files (· = .socket (some 0)) := by
  let start : Network := { files := [(["a.sock"], .regular)] }
  have nobody (id) : ¬ start.Listens "a.sock" id := by rintro ⟨⟩
  have found : start.files.find "a.sock" = .ok .regular :=
    Files.find_eq_ok_iff.mpr ⟨["a.sock"], walk_plain _, rfl, by decide +kernel⟩
  have free := Files.find_remove found (by rintro ⟨⟩)
  have removed : Run "a.sock" start [(start, .remove)] _ := .step .start .remove
  obtain ⟨n, run, holders, -⟩ := removed.bound fit_plain free (vacancy_plain _)
  have drop : Step "a.sock" n (.drop 0) _ := .drop (by rw [Listens, holders]; rfl)
  have connects (n : Network) : n.Connects "a.sock" := connects_of_fit fit_plain
  have dropped := (others_spared connects (.of_deserted nobody) run).2 0 _ drop
  refine ⟨_, n, _, run, rfl, drop, (dropped.2 ?_).2⟩
  rintro moment within ⟨removes, id, alive, -⟩
  rcases List.mem_cons.mp within with rfl | before
  · cases removes
  · obtain rfl := List.mem_singleton.mp before
    exact nobody id alive

/-- **A listener that is dropped takes the socket of its successor**, if its own was removed: the
successor is alive, and nobody can reach it any more. -/
theorem successor_robbed : (∀ n : Network, n.Connects "a.sock") ∧ ∃ record n n',
    Run "a.sock" {} record n ∧ record.map Prod.snd = [.bind (.ok 1), .remove, .bind (.ok 0)] ∧
      Step "a.sock" n (.drop 0) n' ∧ n'.Listens "a.sock" 1 ∧
      n.files.find "a.sock" = .ok (.socket (some 1)) ∧
      n'.files.find "a.sock" = .error .missing := by
  have free : ({} : Network).files.find "a.sock" = .error .missing :=
    Files.find_of_vacant (walk_plain _) rfl
  obtain ⟨n₁, first, holders₁, found₁⟩ := Run.start.bound fit_plain free (vacancy_plain _)
  have gone := Files.find_remove found₁ (by rintro ⟨⟩)
  have sole : Network.holders { n₁ with files := n₁.files.remove "a.sock" }
    = [(.unix "a.sock", true)] := holders₁
  obtain ⟨n₂, second, holders₂, found₂⟩ :=
    (first.step .remove).bound fit_plain gone (vacancy_plain _)
  rw [sole] at second holders₂ found₂
  have alive : n₂.Listens "a.sock" 0 := by rw [Listens, holders₂]; rfl
  have alive' : n₂.Listens "a.sock" 1 := by rw [Listens, holders₂]; rfl
  have drop : Step "a.sock" n₂ (.drop 0) _ := .drop alive
  refine ⟨fun _ => connects_of_fit fit_plain, _, n₂, _, second, rfl, drop, ?_, found₂, ?_⟩
  · exact (listens_unlisten alive true).mpr ⟨alive', by decide⟩
  · rw [drop.of_drop.2]
    exact Files.find_remove found₂ (by rintro ⟨⟩)

end Network

end DeviceRpc
