import DeviceRpc.World.Files

/-!
# Files at a path

What is put at the place of a path or taken from it changes nothing else, and the path still leads
there: a walk needs directories to go on from, so as long as neither what stood at its end nor what
stands there now is one, it does not come through the end on the way (`Path.walkFrom_congr`).
-/

namespace DeviceRpc

namespace Path

variable {stands stands' : Place → Option Bool} {goal : Place} {path : String}

/-- A walk sees nothing of its goal, unless that is a directory. -/
theorem walkFrom_congr (same : ∀ place, place ≠ goal → stands' place = stands place)
    (leaf : stands goal ≠ some true) {here : Place} {names : List String}
    (arrives : walkFrom stands here names = .ok goal) :
    walkFrom stands' here names = .ok goal := by
  induction names generalizing here with
  | nil => exact arrives
  | cons name rest ih =>
    simp only [walkFrom] at arrives ⊢
    cases base : here.isBase with
    | true =>
      simp only [base, if_true] at arrives ⊢
      split at arrives
      · cases arrives
      · next fits =>
        rw [if_neg fits]
        exact ih arrives
    | false =>
      simp only [base, Bool.false_eq_true, if_false] at arrives ⊢
      split at arrives
      · next further =>
        rw [same here fun isGoal => leaf (isGoal ▸ further), further]
        dsimp only
        split at arrives
        · cases arrives
        · next fits =>
          rw [if_neg fits]
          exact ih arrives
      · cases arrives
      · cases arrives

theorem walk_congr (same : ∀ place, place ≠ goal → stands' place = stands place)
    (leaf : stands goal ≠ some true) (arrives : walk stands path = .ok goal) :
    walk stands' path = .ok goal := by
  simp only [walk] at arrives ⊢
  split at arrives
  · cases arrives
  · next noZero =>
    rw [if_neg noZero]
    split at arrives
    · cases arrives
    · next fits =>
      rw [if_neg fits]
      split at arrives
      · cases arrives
      · next named =>
        rw [if_neg named]
        exact walkFrom_congr same leaf arrives

end Path

namespace Files

variable {files files' : Files} {path : String} {place other : Place} {kind kind' : FileKind}

/-! ## Places -/

theorem lookup_without : (files.filter (·.1 ≠ place)).lookup other =
    if other = place then none else files.lookup other := by
  induction files with
  | nil => simp
  | cons file files ih =>
    obtain ⟨here, kind⟩ := file
    by_cases gone : here = place
    · subst gone
      simp only [List.filter_cons, ne_eq, not_true, decide_false, Bool.false_eq_true, if_false, ih]
      split
      · rfl
      · next away => rw [List.lookup_cons, beq_eq_false_iff_ne.mpr away]
    · simp only [List.filter_cons, ne_eq, gone, not_false_iff, decide_true, if_true,
        List.lookup_cons, ih]
      cases found : other == here with
      | true =>
        obtain rfl := beq_iff_eq.mp found
        simp only [if_neg gone]
      | false => rfl

/-- A place from which something goes is empty, the others are as they were. -/
theorem at?_without (leaf : place.isBase = false) : at? (files.filter (·.1 ≠ place)) other =
    if other = place then none else files.at? other := by
  unfold at?
  rw [lookup_without]
  split
  · next base =>
    rw [if_neg]
    rintro rfl
    cases leaf.symm.trans base
  · rfl

theorem at?_putAt (leaf : place.isBase = false) : (files.putAt place kind).at? other =
    if other = place then some kind else files.at? other := by
  by_cases here : other = place
  · subst here
    simp [at?, putAt, leaf]
  · rw [if_neg here]
    have elsewhere : at? (files.filter (·.1 ≠ place)) other = files.at? other :=
      (at?_without leaf).trans (if_neg here)
    rw [← elsewhere]
    simp only [at?, putAt, List.lookup_cons, beq_eq_false_iff_ne.mpr here]

theorem not_isBase_of_at? (there : files.at? place = some kind) (leaf : kind ≠ .directory) :
    place.isBase = false := by
  cases base : place.isBase with
  | false => rfl
  | true =>
    simp only [at?, base, if_true, Option.some.injEq] at there
    cases leaf there.symm

theorem not_isBase_of_vacant (vacant : files.at? place = none) : place.isBase = false := by
  cases base : place.isBase with
  | false => rfl
  | true => simp [at?, base] at vacant

/-- A path still leads to a place where what stands changes, if it never is a directory. -/
theorem walk_of_elsewhere (same : ∀ other, other ≠ place → files'.at? other = files.at? other)
    (leaf : files.at? place ≠ some .directory) (arrives : Path.walk files.stands path = .ok place) :
    Path.walk files'.stands path = .ok place := by
  refine Path.walk_congr (fun other away => ?_) (fun further => ?_) arrives
  · rw [stands, stands, same other away]
  · obtain ⟨kind, there, isDirectory⟩ := Option.map_eq_some_iff.mp further
    exact leaf (of_decide_eq_true isDirectory ▸ there)

/-! ## Paths -/

theorem pathFind_of_walk (arrives : Path.walk files.stands path = .ok place) :
    Path.find files.stands path = match files.at? place with
      | none => .error .missing
      | some kind =>
        if path.endsWith "/" ∧ kind ≠ .directory then .error .notDirectory else .ok place := by
  have asked : (if place.isBase then some true else files.stands place)
      = (files.at? place).map fun kind => decide (kind = .directory) := by
    split
    · next base => simp [at?, base]
    · rfl
  simp only [Path.find, arrives, bind, Except.bind, asked]
  cases files.at? place with
  | none => rfl
  | some kind => simp

theorem pathFind_eq_ok_iff : Path.find files.stands path = .ok place ↔
    Path.walk files.stands path = .ok place ∧ ∃ kind, files.at? place = some kind ∧
      (path.endsWith "/" → kind = .directory) := by
  cases arrives : Path.walk files.stands path with
  | error fault => simp [Path.find, arrives, bind, Except.bind]
  | ok goal =>
    rw [pathFind_of_walk arrives]
    cases there : files.at? goal with
    | none =>
      simp only [reduceCtorEq, Except.ok.injEq, false_iff]
      rintro ⟨rfl, kind, here, -⟩
      cases there.symm.trans here
    | some kind =>
      by_cases barred : path.endsWith "/" ∧ kind ≠ .directory
      · simp only [if_pos barred, reduceCtorEq, Except.ok.injEq, false_iff]
        rintro ⟨rfl, kind', here, allowed⟩
        obtain rfl := Option.some.inj (there.symm.trans here)
        exact barred.2 (allowed barred.1)
      · simp only [if_neg barred, Except.ok.injEq]
        refine ⟨fun same => ⟨same, kind, same ▸ there, fun slash => ?_⟩, And.left⟩
        exact Decidable.byContradiction fun other => barred ⟨slash, other⟩

theorem find_eq_ok_iff : files.find path = .ok kind ↔ ∃ place,
    Path.walk files.stands path = .ok place ∧ files.at? place = some kind ∧
      (path.endsWith "/" → kind = .directory) := by
  cases found : Path.find files.stands path with
  | error fault =>
    simp only [find, found, bind, Except.bind, reduceCtorEq, false_iff]
    rintro ⟨place, arrives, there, allowed⟩
    cases found.symm.trans (pathFind_eq_ok_iff.mpr ⟨arrives, kind, there, allowed⟩)
  | ok place =>
    obtain ⟨arrives, kind', there, allowed⟩ := pathFind_eq_ok_iff.mp found
    simp only [find, found, bind, Except.bind, there, Except.ok.injEq, arrives]
    constructor
    · rintro rfl
      exact ⟨place, rfl, there, allowed⟩
    · rintro ⟨_, rfl, here, -⟩
      exact Option.some.inj (there.symm.trans here)

theorem find_of_vacant (arrives : Path.walk files.stands path = .ok place)
    (vacant : files.at? place = none) : files.find path = .error .missing := by
  simp only [find, pathFind_of_walk arrives, vacant, bind, Except.bind]

theorem vacancy_eq_ok_iff : files.vacancy path = .ok place ↔
    Path.walk files.stands path = .ok place ∧ ¬ path.endsWith "/" := by
  cases arrives : Path.walk files.stands path with
  | error fault => simp [vacancy, arrives, bind, Except.bind]
  | ok goal =>
    by_cases slash : path.endsWith "/" <;>
      simp [vacancy, arrives, bind, Except.bind, slash]

theorem vacant_of_missing (missing : files.find path = .error .missing)
    (vacancy : files.vacancy path = .ok place) : files.at? place = none := by
  obtain ⟨arrives, plain⟩ := vacancy_eq_ok_iff.mp vacancy
  cases there : files.at? place with
  | none => rfl
  | some kind =>
    have found := find_eq_ok_iff.mpr ⟨place, arrives, there, fun slash => absurd slash plain⟩
    cases missing.symm.trans found

/-! ## Putting a file at a path -/

theorem find_putAt (missing : files.find path = .error .missing)
    (vacancy : files.vacancy path = .ok place) :
    (files.putAt place kind).find path = .ok kind := by
  have vacant := vacant_of_missing missing vacancy
  obtain ⟨arrives, plain⟩ := vacancy_eq_ok_iff.mp vacancy
  have put (other) : (files.putAt place kind).at? other = _ :=
    at?_putAt (not_isBase_of_vacant vacant)
  have stands := (put place).trans (if_pos rfl)
  refine find_eq_ok_iff.mpr ⟨place, ?_, stands, fun slash => absurd slash plain⟩
  refine walk_of_elsewhere (fun other away => (put other).trans (if_neg away)) ?_ arrives
  rw [vacant]
  rintro ⟨⟩

/-- Where something stands already, nothing is put. -/
theorem put_of_find (found : files.find path = .ok kind) (leaf : kind' ≠ .directory) :
    files.put path kind' = files := by
  obtain ⟨place, arrives, there, -⟩ := find_eq_ok_iff.mp found
  unfold put
  rw [if_neg leaf]
  cases vacancy : files.vacancy path with
  | error fault => rfl
  | ok goal =>
    obtain rfl := Except.ok.inj (arrives.symm.trans (vacancy_eq_ok_iff.mp vacancy).1)
    simp [there]

/-! ## Removing the file at a path -/

theorem remove_of_error {fault : PathFault} (lost : files.find path = .error fault) :
    files.remove path = files := by
  unfold remove
  cases found : Path.find files.stands path with
  | error _ => rfl
  | ok place =>
    obtain ⟨arrives, kind, there, allowed⟩ := pathFind_eq_ok_iff.mp found
    cases lost.symm.trans (find_eq_ok_iff.mpr ⟨place, arrives, there, allowed⟩)

theorem remove_of_find (found : files.find path = .ok kind) : ∃ place,
    Path.walk files.stands path = .ok place ∧ files.at? place = some kind ∧
      files.remove path = if kind = .directory then files else files.filter (·.1 ≠ place) := by
  obtain ⟨place, arrives, there, allowed⟩ := find_eq_ok_iff.mp found
  have goes := pathFind_eq_ok_iff.mpr ⟨arrives, kind, there, allowed⟩
  refine ⟨place, arrives, there, ?_⟩
  simp only [remove, goes, there, Option.some.injEq]

theorem find_remove (found : files.find path = .ok kind) (leaf : kind ≠ .directory) :
    (files.remove path).find path = .error .missing := by
  obtain ⟨place, arrives, there, removed⟩ := remove_of_find found
  rw [if_neg leaf] at removed
  have gone (other) : (files.remove path).at? other = _ :=
    removed ▸ at?_without (not_isBase_of_at? there leaf)
  refine find_of_vacant (walk_of_elsewhere ?_ ?_ arrives) ((gone place).trans (if_pos rfl))
  · exact fun other away => (gone other).trans (if_neg away)
  · rw [there]
    exact fun same => leaf (Option.some.inj same)

/-- Whatever stands somewhere in the files still stands there afterwards, except for what `mine`
allows to go. -/
def Spares (files files' : Files) (mine : FileKind → Prop) : Prop :=
  ∀ place kind, files.at? place = some kind → files'.at? place = some kind ∨ mine kind

theorem Spares.refl {mine : FileKind → Prop} : files.Spares files mine :=
  fun _ _ there => .inl there

/-- A removal is within what may go just if that may which stands at the path, a directory apart. -/
theorem spares_remove_iff {mine : FileKind → Prop} : files.Spares (files.remove path) mine ↔
    ∀ kind, files.find path = .ok kind → kind = .directory ∨ mine kind := by
  cases found : files.find path with
  | error fault =>
    rw [remove_of_error found]
    simp [Spares.refl]
  | ok kind =>
    obtain ⟨place, arrives, there, removed⟩ := remove_of_find found
    rw [removed]
    split
    · next directory =>
      refine iff_of_true Spares.refl ?_
      rintro _ ⟨⟩
      exact .inl directory
    · next leaf =>
      have gone (other) : at? (files.filter (·.1 ≠ place)) other = _ :=
        at?_without (not_isBase_of_at? there leaf)
      constructor
      · rintro spares _ ⟨⟩
        refine .inr ((spares place kind there).resolve_left ?_)
        rw [gone, if_pos rfl]
        rintro ⟨⟩
      · intro allowed here kind' stood
        rw [gone]
        split
        · next same =>
          subst same
          obtain rfl := Option.some.inj (there.symm.trans stood)
          exact .inr ((allowed kind rfl).resolve_left leaf)
        · exact .inl stood

/-- What is put where nothing was found takes nothing away. -/
theorem Spares.putAt {start : Files} {mine : FileKind → Prop} (spares : start.Spares files mine)
    (missing : files.find path = .error .missing) (vacancy : files.vacancy path = .ok place) :
    start.Spares (files.putAt place kind) mine := by
  have vacant := vacant_of_missing missing vacancy
  intro other kind' stood
  refine (spares other kind' stood).imp_left fun stands => ?_
  rw [at?_putAt (not_isBase_of_vacant vacant), if_neg]
  · exact stands
  · rintro rfl
    cases vacant.symm.trans stands

end Files

end DeviceRpc
