import DeviceRpc.Metrics.Label

/-!
# Labels that are read back

Label sets are told apart by their pairs in whatever order (`labels_eq_iff`), and a sample keeps
them apart. The three replacements of `escape` come to one spelling for each character
(`toList_escape`), so a reader that goes from character to character, as those of the exposition
do, finds every value as it was: a backslash stands before a backslash, a quote or an `n`, a quote
alone ends the value, and a line feed is refused (`Reader.step`). Only the names have to be names:
nothing spells out what stands in front of an equals sign.
-/

namespace DeviceRpc.Metrics

variable {pairs pairs' : List (String × String)} {pair a b c : String × String}

/-! ## Label sets -/

theorem pairLe_total (a b : String × String) : (pairLe a b || pairLe b a) = true := by
  have keys := String.le_total a.1 b.1
  have values := String.le_total a.2 b.2
  by_cases same : a.1 = b.1
  · simpa [pairLe, same] using values
  · simpa [pairLe, same, Ne.symm same] using keys

theorem pairLe_antisymm (ab : pairLe a b = true) (ba : pairLe b a = true) : a = b := by
  by_cases same : a.1 = b.1
  · simp only [pairLe, same, if_true, decide_eq_true_eq] at ab ba
    exact Prod.ext same (String.le_antisymm ab ba)
  · simp only [pairLe, same, Ne.symm same, if_false, decide_eq_true_eq] at ab ba
    exact absurd (String.le_antisymm ab ba) same

theorem pairLe_trans (ab : pairLe a b = true) (bc : pairLe b c = true) : pairLe a c = true := by
  by_cases first : a.1 = b.1
  · by_cases second : b.1 = c.1
    · simp only [pairLe, first, second, if_true, decide_eq_true_eq] at *
      exact String.le_trans ab bc
    · simpa [pairLe, first, second] using bc
  · by_cases second : b.1 = c.1
    · simpa [pairLe, first, ← second] using ab
    · simp only [pairLe, first, second, if_false, decide_eq_true_eq] at ab bc
      have apart : a.1 ≠ c.1 := by
        intro same
        rw [same] at ab
        exact second (String.le_antisymm bc ab)
      simpa [pairLe, apart] using String.le_trans ab bc

theorem labels_perm (pairs : List (String × String)) : (labels pairs).Perm pairs :=
  List.mergeSort_perm pairs pairLe

theorem labels_sorted (pairs : List (String × String)) :
    (labels pairs).Pairwise fun a b => pairLe a b = true :=
  List.pairwise_mergeSort (@pairLe_trans) pairLe_total pairs

/-- Label sets are the same just if their pairs are, in whatever order. -/
theorem labels_eq_iff : labels pairs = labels pairs' ↔ pairs.Perm pairs' := by
  constructor
  · intro same
    have there : pairs.Perm (labels pairs') := same ▸ (labels_perm pairs).symm
    exact there.trans (labels_perm pairs')
  · intro perm
    refine List.Perm.eq_of_pairwise ?_ (labels_sorted pairs) (labels_sorted pairs') ?_
    · exact fun _ _ _ _ => pairLe_antisymm
    · exact (labels_perm pairs).trans (perm.trans (labels_perm pairs').symm)

/-! ## Values -/

/-- How a character of a value is spelled. -/
def escapeChar : Char → List Char
  | '\\' => ['\\', '\\']
  | '"' => ['\\', '"']
  | '\n' => ['\\', 'n']
  | c => [c]

theorem escapeChar_plain {c : Char} (backslash : c ≠ '\\') (quote : c ≠ '"') (feed : c ≠ '\n') :
    escapeChar c = [c] := by
  unfold escapeChar
  split <;> simp_all

/-- The three replacements, one after the other, spell each character on its own. -/
theorem toList_escape (value : String) :
    (escape value).toList = value.toList.flatMap escapeChar := by
  rw [escape, String.toList_ofList]
  induction value.toList with
  | nil => rfl
  | cons c rest ih =>
    simp only [replaceAll, List.flatMap_cons, List.flatMap_append] at ih ⊢
    rw [ih]
    congr 1
    by_cases backslash : c = '\\'
    · subst backslash
      rfl
    by_cases quote : c = '"'
    · subst quote
      rfl
    by_cases feed : c = '\n'
    · subst feed
      rfl
    simp [escapeChar_plain, backslash, quote, feed]

/-! ## Bodies -/

/-- Pairs as a sample shows them where more follow. -/
def prior (pairs : List (String × String)) : List Char :=
  pairs.flatMap fun pair => (pairBody pair).toList ++ [',']

theorem prior_cons (pair : String × String) (rest : List (String × String)) :
    prior (pair :: rest) = (pairBody pair).toList ++ ',' :: prior rest := by
  simp [prior]

theorem body_append_cons (before : List (String × String)) (pair : String × String)
    (after : List (String × String)) :
    (body (before ++ pair :: after)).toList
      = prior before ++ (body (pair :: after)).toList := by
  induction before with
  | nil => simp [prior]
  | cons first before ih =>
    obtain ⟨next, rest, split⟩ : ∃ next rest, before ++ pair :: after = next :: rest := by
      cases before <;> simp
    have shown : (body (first :: next :: rest)).toList
        = (pairBody first).toList ++ ',' :: (body (next :: rest)).toList := by
      simp [body]
    rw [List.cons_append, split, shown, ← split, ih, prior_cons, List.append_assoc,
      List.cons_append]

theorem body_concat (before : List (String × String)) (last : String × String) :
    (body (before ++ [last])).toList = prior before ++ (pairBody last).toList := by
  rw [body_append_cons]
  simp [body]

/-! ## Names -/

/-- A character that the name of a label may have. -/
def isNameChar (c : Char) : Bool := c.isAlphanum || c = '_'

/-- Whether a key is made of letters, digits and underscores. -/
def isName (key : String) : Bool := key.toList.all isNameChar

/-! ## Reading -/

/-- How far the labels of a sample have been read. -/
inductive Reader where
  | name (read : Labels) (name : List Char)
  /-- Behind the equals sign. -/
  | opening (read : Labels) (name : List Char)
  /-- Between the quotes. -/
  | value (read : Labels) (name value : List Char)
  /-- Between the quotes, behind a backslash. -/
  | spelling (read : Labels) (name value : List Char)
  /-- Behind the closing quote. -/
  | closed (read : Labels)

namespace Reader

/-- Reads one more character. -/
def step : Reader → Char → Option Reader
  | name read n, c =>
    if c = '=' then some (opening read n)
    else if isNameChar c then some (name read (n ++ [c]))
    else none
  | opening read n, c => if c = '"' then some (value read n []) else none
  | value read n v, c =>
    if c = '"' then some (closed (read ++ [(String.ofList n, String.ofList v)]))
    else if c = '\\' then some (spelling read n v)
    else if c = '\n' then none
    else some (value read n (v ++ [c]))
  | spelling read n v, c =>
    if c = '\\' ∨ c = '"' then some (value read n (v ++ [c]))
    else if c = 'n' then some (value read n (v ++ ['\n']))
    else none
  | closed read, c => if c = ',' then some (name read []) else none

/-- Reads some more characters. -/
def run (r : Reader) (text : List Char) : Option Reader := text.foldlM step r

/-- The reader is between the quotes of a value. -/
def Inside (before : Labels) (key : String) (r : Reader) : Prop :=
  ∃ v, r = value before key.toList v ∨ r = spelling before key.toList v

theorem run_append (r : Reader) (text more : List Char) :
    r.run (text ++ more) = (r.run text).bind (·.run more) :=
  List.foldlM_append

theorem run_cons (r : Reader) (c : Char) (text : List Char) :
    r.run (c :: text) = (r.step c).bind (·.run text) :=
  List.foldlM_cons

end Reader

/-- The labels of a sample, from what stands between its braces. -/
def readLabels (text : String) : Option Labels :=
  match Reader.run (.name [] []) text.toList with
  | some (.closed read) => some read
  | some (.name [] []) => some []
  | _ => none

namespace Reader

variable {read : Labels} {n v cs : List Char} {key : String}

theorem run_name (all : cs.all isNameChar = true) :
    run (.name read n) cs = some (.name read (n ++ cs)) := by
  induction cs generalizing n with
  | nil => simp [run]
  | cons c cs ih =>
    obtain ⟨first, rest⟩ : isNameChar c = true ∧ cs.all isNameChar = true := by simpa using all
    have sign : c ≠ '=' := by
      rintro rfl
      cases first
    have stepped : step (.name read n) c = some (.name read (n ++ [c])) := by
      simp [step, sign, first]
    rw [run_cons, stepped, Option.bind_some, ih rest, List.append_assoc, List.singleton_append]

theorem run_escapeChar (read : Labels) (n v : List Char) (c : Char) :
    run (.value read n v) (escapeChar c) = some (.value read n (v ++ [c])) := by
  by_cases backslash : c = '\\'
  · subst backslash
    rfl
  by_cases quote : c = '"'
  · subst quote
    rfl
  by_cases feed : c = '\n'
  · subst feed
    rfl
  rw [escapeChar_plain backslash quote feed]
  simp [run, step, backslash, quote, feed]

/-- A value is read back from its spelling. -/
theorem run_value (read : Labels) (n v cs : List Char) :
    run (.value read n v) (cs.flatMap escapeChar) = some (.value read n (v ++ cs)) := by
  induction cs generalizing v with
  | nil => simp [run]
  | cons c cs ih =>
    rw [List.flatMap_cons, run_append, run_escapeChar, Option.bind_some, ih, List.append_assoc,
      List.singleton_append]

theorem run_within_char {c : Char} {spelled : List Char} (part : spelled <+: escapeChar c) :
    ∃ r, run (.value read key.toList v) spelled = some r ∧ r.Inside read key := by
  have whole : ∃ r, run (.value read key.toList v) (escapeChar c) = some r ∧ r.Inside read key :=
    ⟨_, run_escapeChar .., _, .inl rfl⟩
  have nothing : ∃ r, run (.value read key.toList v) [] = some r ∧ r.Inside read key :=
    ⟨_, rfl, v, .inl rfl⟩
  have backslash : ∃ r, run (.value read key.toList v) ['\\'] = some r ∧ r.Inside read key :=
    ⟨_, rfl, v, .inr rfl⟩
  -- nothing, or all of it, or the backslash that spells the character
  have cut : spelled = [] ∨ spelled = escapeChar c ∨ spelled = ['\\'] := by
    unfold escapeChar at part ⊢
    split at part <;> simp only [List.prefix_cons_iff, List.prefix_nil] at part <;> grind
  rcases cut with rfl | rfl | rfl
  · exact nothing
  · exact whole
  · exact backslash

/-- Nothing within the spelling of a value ends its quotes. -/
theorem run_within {spelled : List Char} (part : spelled <+: cs.flatMap escapeChar) :
    ∃ r, run (.value read key.toList v) spelled = some r ∧ r.Inside read key := by
  induction cs generalizing v spelled with
  | nil =>
    obtain rfl := List.prefix_nil.mp part
    exact ⟨_, rfl, v, .inl rfl⟩
  | cons c cs ih =>
    rw [List.flatMap_cons] at part
    rcases List.prefix_or_prefix_of_prefix part (List.prefix_append ..) with early | ⟨more, rfl⟩
    · exact run_within_char early
    · obtain ⟨r, ran, inside⟩ := ih (v := v ++ [c]) ((List.prefix_append_right_inj _).mp part)
      refine ⟨r, ?_, inside⟩
      rw [run_append, run_escapeChar, Option.bind_some, ran]

theorem run_pairBody (read : Labels) (name : isName pair.1 = true) :
    run (.name read []) (pairBody pair).toList = some (.closed (read ++ [pair])) := by
  have shown : (pairBody pair).toList
      = pair.1.toList ++ (['=', '"'] ++ (pair.2.toList.flatMap escapeChar ++ ['"'])) := by
    simp [pairBody, toList_escape]
  have opens : run (.name read pair.1.toList) ['=', '"'] = some (.value read pair.1.toList []) :=
    rfl
  have closes : run (.value read pair.1.toList pair.2.toList) ['"']
      = some (.closed (read ++ [pair])) := by
    simp [run, step]
  rw [shown, run_append, run_name name, Option.bind_some, List.nil_append, run_append, opens,
    Option.bind_some, run_append, run_value, Option.bind_some, List.nil_append, closes]

theorem run_prior (read : Labels) (named : ∀ pair ∈ pairs, isName pair.1 = true) :
    run (.name read []) (prior pairs) = some (.name (read ++ pairs) []) := by
  induction pairs generalizing read with
  | nil => simp [prior, run]
  | cons pair rest ih =>
    have first := run_pairBody read (named pair (List.mem_cons_self ..))
    have comma : step (.closed (read ++ [pair])) ',' = some (.name (read ++ [pair]) []) := rfl
    have later := ih (read ++ [pair]) fun _ mem => named _ (List.mem_cons_of_mem _ mem)
    rw [prior_cons, run_append, first, Option.bind_some, run_cons, comma, Option.bind_some, later,
      List.append_assoc, List.singleton_append]

end Reader

/-- **Labels are read back** from what stands between the braces of their sample. -/
theorem readLabels_body (named : ∀ pair ∈ pairs, isName pair.1 = true) :
    readLabels (body pairs) = some pairs := by
  rcases List.eq_nil_or_concat pairs with rfl | ⟨before, last, rfl⟩
  · rfl
  · rw [List.concat_eq_append] at named ⊢
    have earlier := Reader.run_prior [] fun pair mem => named pair (List.mem_append_left _ mem)
    have latest := Reader.run_pairBody before (named last (by simp))
    rw [readLabels, body_concat, Reader.run_append, earlier, List.nil_append, Option.bind_some,
      latest]

/-! ## Lines and quotes -/

theorem feed_not_mem_escape (value : String) : '\n' ∉ (escape value).toList := by
  rw [toList_escape, List.mem_flatMap]
  rintro ⟨c, -, mem⟩
  unfold escapeChar at mem
  split at mem <;> simp at mem
  exact absurd mem.symm ‹_›

theorem feed_not_mem_pairBody (plain : '\n' ∉ pair.1.toList) :
    '\n' ∉ (pairBody pair).toList := by
  simp [pairBody, feed_not_mem_escape, plain]

/-- Where no key has a line feed, the body has none. -/
theorem feed_not_mem_body (plain : ∀ pair ∈ pairs, '\n' ∉ pair.1.toList) :
    '\n' ∉ (body pairs).toList := by
  rcases List.eq_nil_or_concat pairs with rfl | ⟨before, last, rfl⟩
  · simp [body]
  · rw [List.concat_eq_append] at plain ⊢
    have earlier : '\n' ∉ prior before := by
      simp only [prior, List.mem_flatMap, List.mem_append, List.mem_singleton, not_exists, not_and,
        not_or]
      exact fun pair mem => ⟨feed_not_mem_pairBody (plain pair (by simp [mem])), by decide⟩
    have latest := feed_not_mem_pairBody (plain last (by simp))
    rw [body_concat, List.mem_append]
    exact not_or.mpr ⟨earlier, latest⟩

theorem feed_not_mem_name {key : String} (name : isName key = true) : '\n' ∉ key.toList := by
  intro mem
  cases List.all_eq_true.mp name _ mem

/-- The body up to the quote that opens a value: the pairs before it, its key and its sign. -/
def opened (before : Labels) (key : String) : List Char := prior before ++ key.toList ++ ['=', '"']

theorem body_split (before : Labels) (pair : String × String) (after : Labels) :
    ∃ rest, (body (before ++ pair :: after)).toList
      = opened before pair.1 ++ (escape pair.2).toList ++ '"' :: rest := by
  rw [body_append_cons]
  cases after <;> simp [body, opened, pairBody]

theorem Reader.run_opened {before : Labels} {key : String} (name : isName key = true)
    (named : ∀ pair ∈ before, isName pair.1 = true) :
    run (.name [] []) (opened before key) = some (.value before key.toList []) := by
  have opens : run (.name before key.toList) ['=', '"'] = some (.value before key.toList []) := rfl
  rw [opened, run_append, run_append, run_prior [] named, Option.bind_some, run_name name,
    Option.bind_some, List.nil_append, List.nil_append, opens]

/-- **Bodies are unambiguous.** Where every key is a name, the body of some labels has no line feed
and is read back as the sorted labels; bodies are the same just if the labels are, in whatever
order; and from the quote that opens a value to the one that closes it the reader stays between the
quotes. -/
theorem bodies_unambiguous (named : ∀ pair ∈ pairs, isName pair.1 = true) :
    '\n' ∉ (body (labels pairs)).toList ∧
    readLabels (body (labels pairs)) = some (labels pairs) ∧
    ((labels pairs).Perm pairs ∧ (labels pairs).Pairwise fun a b => pairLe a b = true) ∧
    (∀ pairs', (∀ pair ∈ pairs', isName pair.1 = true) →
      (body (labels pairs) = body (labels pairs') ↔ pairs.Perm pairs')) ∧
    ∀ before pair after, labels pairs = before ++ pair :: after →
      (∃ rest, (body (labels pairs)).toList
        = opened before pair.1 ++ (escape pair.2).toList ++ '"' :: rest) ∧
      ∀ spelled, spelled <+: (escape pair.2).toList →
        ∃ r, Reader.run (.name [] []) (opened before pair.1 ++ spelled) = some r ∧
          r.Inside before pair.1 := by
  have sorted {pairs : List (String × String)} (named : ∀ pair ∈ pairs, isName pair.1 = true) :
      ∀ pair ∈ labels pairs, isName pair.1 = true :=
    fun pair mem => named pair ((labels_perm pairs).mem_iff.mp mem)
  refine ⟨feed_not_mem_body fun pair mem => feed_not_mem_name (sorted named pair mem),
    readLabels_body (sorted named),
    ⟨labels_perm pairs, labels_sorted pairs⟩, fun pairs' named' => ?_,
    fun before pair after split => ⟨split ▸ body_split before pair after, fun spelled part => ?_⟩⟩
  · constructor
    · intro same
      have back := readLabels_body (sorted named)
      rw [same, readLabels_body (sorted named')] at back
      exact labels_eq_iff.mp (Option.some.inj back).symm
    · intro perm
      rw [labels_eq_iff.mpr perm]
  · have all := split ▸ sorted named
    have opens := Reader.run_opened (all pair (by simp)) fun p mem =>
      all p (List.mem_append_left _ mem)
    rw [Reader.run_append, opens, Option.bind_some]
    exact Reader.run_within (toList_escape pair.2 ▸ part)

/-- Labels whose values look like quotes, further labels and lines. -/
def lookalike : List (String × String) :=
  [("unit", "a\",unit=\"b"), ("path", "c:\\"), ("note", "up\nunit\x7b\x7d 1")]

theorem bodies_unambiguous_lookalike : (∀ pair ∈ lookalike, isName pair.1 = true) ∧
    '\n' ∉ (body (labels lookalike)).toList ∧
    readLabels (body (labels lookalike)) = some (labels lookalike) := by
  have named : ∀ pair ∈ lookalike, isName pair.1 = true := by decide
  obtain ⟨line, back, -⟩ := bodies_unambiguous named
  exact ⟨named, line, back⟩

end DeviceRpc.Metrics
