import DeviceRpc.Pdu.CommandLine

/-!
# Command lines and their usage

What the usage line allows is a grammar: a command and what it takes (`Spells`). The arguments are
read as their invocation just if they are an address, the name of a PDU and words of this grammar,
with one exception (`reads_usage`). No command looks further than the one argument that it takes, so
whatever stands behind a command that has all it can take is ignored (`surplus_ignored`).
-/

namespace DeviceRpc

namespace Text

/-- A text spells a number: digits, with or without a plus sign in front. -/
inductive Numeral (s : String) : Nat → Prop where
  | plain (some : s.toList ≠ []) (all : s.toList.all isDigit = true) :
      Numeral s (digitsValue s.toList)
  | signed {digits : List Char} (sign : s.toList = '+' :: digits) (some : digits ≠ [])
      (all : digits.all isDigit = true) : Numeral s (digitsValue digits)

theorem digits?_eq_some_iff {bound n : Nat} {cs : List Char} :
    digits? bound cs = some n ↔
      (cs ≠ [] ∧ cs.all isDigit = true) ∧ digitsValue cs = n ∧ n < bound := by
  unfold digits?
  grind

theorem natural?_eq_some_iff {bound n : Nat} {s : String} :
    natural? bound s = some n ↔ Numeral s n ∧ n < bound := by
  unfold natural?
  split
  next cs sign =>
    rw [digits?_eq_some_iff]
    constructor
    · rintro ⟨⟨some, all⟩, rfl, below⟩
      exact ⟨.signed sign some all, below⟩
    · rintro ⟨spelled, below⟩
      cases spelled with
      | plain some all => simp [sign, isDigit] at all
      | signed sign' some all =>
        obtain rfl := (List.cons.inj (sign.symm.trans sign')).2
        exact ⟨⟨some, all⟩, rfl, below⟩
  next unsigned =>
    rw [digits?_eq_some_iff]
    constructor
    · rintro ⟨⟨some, all⟩, rfl, below⟩
      exact ⟨.plain some all, below⟩
    · rintro ⟨spelled, below⟩
      cases spelled with
      | plain some all => exact ⟨⟨some, all⟩, rfl, below⟩
      | signed sign => exact absurd sign (unsigned _)

/-- Reading a number of some bits, where every number below the bound has its word. -/
theorem map_natural?_eq_some_iff {α : Type} {bound : Nat} {word : Nat → α} {value : α → Nat}
    (below : ∀ a, value a < bound) (word_value : ∀ a, word (value a) = a)
    (value_word : ∀ n < bound, value (word n) = n) {s : String} {a : α} :
    (natural? bound s).map word = some a ↔ Numeral s (value a) := by
  rw [Option.map_eq_some_iff]
  constructor
  · rintro ⟨n, read, rfl⟩
    obtain ⟨spelled, small⟩ := natural?_eq_some_iff.mp read
    rwa [value_word n small]
  · intro spelled
    exact ⟨value a, natural?_eq_some_iff.mpr ⟨spelled, below a⟩, word_value a⟩

theorem u16?_eq_some_iff {s : String} {n : UInt16} : u16? s = some n ↔ Numeral s n.toNat :=
  map_natural?_eq_some_iff UInt16.toNat_lt (fun _ => UInt16.ofNat_toNat)
    fun _ small => UInt16.toNat_ofNat_of_lt small

theorem u32?_eq_some_iff {s : String} {n : UInt32} : u32? s = some n ↔ Numeral s n.toNat :=
  map_natural?_eq_some_iff UInt32.toNat_lt (fun _ => UInt32.ofNat_toNat)
    fun _ small => UInt32.toNat_ofNat_of_lt small

end Text

namespace Pdu.CommandLine

/-! ## The grammar -/

/-- A command that takes a channel. -/
inductive OnChannel : String → (UInt16 → Command) → Prop where
  | on : OnChannel "on" .turnOn
  | off : OnChannel "off" .turnOff
  | voltage : OnChannel "voltage" .voltage
  | current : OnChannel "current" .current
  | both : OnChannel "vc" .voltageCurrent

/-- The words that the usage line gives for a command. -/
inductive Spells : List String → Command → Prop where
  | onChannel {word arg : String} {make : UInt16 → Command} {channel : UInt16}
      (known : OnChannel word make) (number : Text.Numeral arg channel.toNat) :
      Spells [word, arg] (make channel)
  | statusAll : Spells ["status"] (.status 0)
  | status {arg : String} {limit : UInt32} (number : Text.Numeral arg limit.toNat) :
      Spells ["status", arg] (.status limit)
  | channel (name : String) : Spells ["channel", name] (.channel name)
  | inspect : Spells ["inspect"] .inspect
  | registerUnlimited : Spells ["register"] (.register .zero)
  | register {arg : String} {seconds : Binary64} (number : Binary64.ofText? arg = some seconds) :
      Spells ["register", arg] (.register seconds)

/-- The words leave no room for another. -/
def Full (words : List String) : Prop := words.length = 2 ∨ words = ["inspect"]

/-! ## What is read -/

variable {α β : Type} {what : String} {read : String → Option α} {arg : Option String}
variable {n absent : α}

theorem map_eq_ok_iff {f : α → β} {x : Except String α} {b : β} :
    f <$> x = .ok b ↔ ∃ a, x = .ok a ∧ f a = b := by
  cases x with
  | error e =>
    refine iff_of_false ?_ (by simp)
    rintro ⟨⟩
  | ok a =>
    have mapped : f <$> Except.ok a = (Except.ok (f a) : Except String β) := rfl
    simp [mapped]

theorem number_eq_ok_iff :
    number what read arg = .ok n ↔ ∃ text, arg = some text ∧ read text = some n := by
  cases arg with
  | none => simp [number]
  | some text => cases h : read text <;> simp [number, h]

theorem numberOr_eq_ok_iff : numberOr what read absent arg = .ok n ↔
    arg = none ∧ n = absent ∨ ∃ text, arg = some text ∧ read text = some n := by
  cases arg with
  | none => simp [numberOr, eq_comm]
  | some text => simp [numberOr, number_eq_ok_iff]

variable {word : String} {words rest : List String} {c : Command}

theorem channel_eq_ok_iff {make : UInt16 → Command} :
    make <$> number what Text.u16? arg = .ok c ↔
      ∃ text channel, arg = some text ∧ Text.Numeral text channel.toNat ∧ make channel = c := by
  simp only [map_eq_ok_iff, number_eq_ok_iff, Text.u16?_eq_some_iff]
  grind

theorem command_of_spells (spelled : Spells (word :: arg.toList) c) : command word arg = .ok c := by
  cases arg with
  | none =>
    rw [Option.toList_none] at spelled
    cases spelled <;> rfl
  | some text =>
    rw [Option.toList_some] at spelled
    cases spelled with
    | onChannel known number =>
      cases known <;> exact channel_eq_ok_iff.mpr ⟨text, _, rfl, number, rfl⟩
    | status number =>
      refine map_eq_ok_iff.mpr ⟨_, numberOr_eq_ok_iff.mpr (.inr ⟨text, rfl, ?_⟩), rfl⟩
      exact Text.u32?_eq_some_iff.mpr number
    | channel => rfl
    | register number =>
      exact map_eq_ok_iff.mpr ⟨_, numberOr_eq_ok_iff.mpr (.inr ⟨text, rfl, number⟩), rfl⟩

theorem spells_of_command (read : command word arg = .ok c) :
    Spells (word :: arg.toList) c ∨ word = "inspect" ∧ c = .inspect := by
  unfold command at read
  split at read
  case h_6 =>
    left
    obtain ⟨limit, found, rfl⟩ := map_eq_ok_iff.mp read
    rcases numberOr_eq_ok_iff.mp found with ⟨rfl, rfl⟩ | ⟨text, rfl, number⟩
    · exact .statusAll
    · exact .status (Text.u32?_eq_some_iff.mp number)
  case h_7 =>
    left
    split at read <;> cases read
    exact .channel _
  case h_8 =>
    cases read
    exact .inr ⟨rfl, rfl⟩
  case h_9 =>
    left
    obtain ⟨seconds, found, rfl⟩ := map_eq_ok_iff.mp read
    rcases numberOr_eq_ok_iff.mp found with ⟨rfl, rfl⟩ | ⟨text, rfl, number⟩
    · exact .registerUnlimited
    · exact .register number
  case h_10 => cases read
  all_goals
    left
    obtain ⟨text, channel, rfl, number, rfl⟩ := channel_eq_ok_iff.mp read
    exact .onChannel (by constructor) number

theorem Spells.shape (spelled : Spells words c) :
    ∃ (word : String) (arg : Option String), words = word :: arg.toList := by
  cases spelled with
  | onChannel | status | channel | register => exact ⟨_, some _, rfl⟩
  | statusAll | inspect | registerUnlimited => exact ⟨_, none, rfl⟩

theorem Spells.of_inspect (spelled : Spells words c) (first : words.head? = some "inspect") :
    words = ["inspect"] ∧ c = .inspect := by
  cases spelled with
  | onChannel known => cases known <;> simp at first
  | inspect => exact ⟨rfl, rfl⟩
  | _ => simp at first

/-- A command is read from its word and from one word behind it, if there is one. -/
theorem command_eq_ok_iff : command word rest.head? = .ok c ↔ ∃ words surplus,
    word :: rest = words ++ surplus ∧ Spells words c ∧ (surplus = [] ∨ Full words) := by
  constructor
  · intro read
    rcases spells_of_command read with spelled | ⟨rfl, rfl⟩
    · cases rest with
      | nil => exact ⟨_, [], rfl, spelled, .inl rfl⟩
      | cons text surplus => exact ⟨[word, text], surplus, rfl, spelled, .inr (.inl rfl)⟩
    · exact ⟨["inspect"], rest, rfl, .inspect, .inr (.inr rfl)⟩
  · rintro ⟨words, surplus, split, spelled, room⟩
    obtain ⟨word', arg, rfl⟩ := spelled.shape
    cases arg with
    | some text =>
      cases split
      exact command_of_spells spelled
    | none =>
      cases split
      rcases room with rfl | two | one
      · exact command_of_spells spelled
      · cases two
      · obtain rfl := (List.cons.inj one).1
        rw [(spelled.of_inspect rfl).2]
        rfl

/-! ## Whole command lines -/

theorem parse_eq_ok_iff {address pdu word : String} {rest : List String} {inv : Invocation} :
    parse (address :: pdu :: word :: rest) = .ok inv ↔
      Endpoint.parse address Protocol.Port.pdu = .ok inv.endpoint ∧ inv.pdu = pdu ∧
        command word rest.head? = .ok inv.command := by
  obtain ⟨endpoint, name, c⟩ := inv
  cases found : Endpoint.parse address Protocol.Port.pdu with
  | error e =>
    have refused : parse (address :: pdu :: word :: rest) = .error e.message := by
      rw [parse, found]
      rfl
    simp [refused]
  | ok e =>
    cases read : command word rest.head? with
    | error e' =>
      have refused : parse (address :: pdu :: word :: rest) = .error e' := by
        rw [parse, found, read]
        rfl
      simp [refused]
    | ok c' =>
      have taken : parse (address :: pdu :: word :: rest) = .ok ⟨e, pdu, c'⟩ := by
        rw [parse, found, read]
        rfl
      simp [taken, eq_comm]

theorem parse_append {address pdu : String} {surplus : List String} (full : Full words) :
    parse (address :: pdu :: words ++ surplus) = parse (address :: pdu :: words) := by
  rcases full with two | rfl
  · match words, two with
    | [word, text], _ => rfl
  · rfl

/-- **Command lines are read by their usage**, up to what stands behind words that leave no room for
another: the arguments are an address, a PDU and the words of a command, the invocation has just
what they say, and more words change nothing. -/
theorem reads_usage (args : List String) (inv : Invocation) :
    (parse args = .ok inv ↔ ∃ address words surplus,
      args = address :: inv.pdu :: words ++ surplus ∧
      Endpoint.parse address Protocol.Port.pdu = .ok inv.endpoint ∧
      Spells words inv.command ∧ (surplus = [] ∨ Full words)) ∧
    ∀ address pdu words surplus, args = address :: pdu :: words → Full words →
      parse (args ++ surplus) = parse args := by
  refine ⟨⟨fun read => ?_, ?_⟩, ?_⟩
  · match args, read with
    | address :: pdu :: word :: rest, read =>
      obtain ⟨found, rfl, known⟩ := parse_eq_ok_iff.mp read
      obtain ⟨words, surplus, split, spelled, room⟩ := command_eq_ok_iff.mp known
      exact ⟨address, words, surplus, by rw [split]; rfl, found, spelled, room⟩
  · rintro ⟨address, words, surplus, rfl, found, spelled, room⟩
    obtain ⟨word, arg, rfl⟩ := spelled.shape
    have read := command_eq_ok_iff.mpr ⟨_, surplus, rfl, spelled, room⟩
    exact parse_eq_ok_iff.mpr ⟨found, rfl, read⟩
  · rintro address pdu words surplus rfl full
    exact parse_append full

/-- A limit may be left out, and it may have a plus sign; then it leaves no room for another. -/
theorem reads_usage_status :
    parse ["host", "pdu-east", "status"] = .ok ⟨.tcp "host" 13002, "pdu-east", .status 0⟩ ∧
    Full ["status", "+2"] ∧ parse ["host", "pdu-east", "status", "+2", "9"]
      = .ok ⟨.tcp "host" 13002, "pdu-east", .status 2⟩ := by
  have endpoint : Endpoint.parse "host" Protocol.Port.pdu = .ok (.tcp "host" 13002) := by rfl
  have number : Text.Numeral "+2" 2 := by
    have sign : "+2".toList = '+' :: ['2'] := rfl
    exact .signed sign (by decide) (by decide)
  have two : Spells ["status", "+2"] (.status 2) := .status number
  have full : Full ["status", "+2"] := .inl rfl
  let said (c : Pdu.Command) : Invocation := ⟨.tcp "host" 13002, "pdu-east", c⟩
  have bare := (reads_usage _ (said _)).1.mpr ⟨"host", _, [], rfl, endpoint, .statusAll, .inl rfl⟩
  have usage := reads_usage ["host", "pdu-east", "status", "+2"] (said (.status 2))
  have read := usage.1.mpr ⟨"host", _, [], rfl, endpoint, two, .inl rfl⟩
  have more := usage.2 "host" "pdu-east" ["status", "+2"] ["9"] rfl full
  exact ⟨bare, full, more.trans read⟩

/-- A word behind a command that takes none is not noticed, although no usage has it. -/
theorem surplus_ignored :
    parse ["host", "pdu-east", "inspect", "now"]
      = .ok ⟨.tcp "host" 13002, "pdu-east", .inspect⟩ ∧
    ∀ c, ¬ Spells ["inspect", "now"] c := by
  refine ⟨by rfl, fun c spelled => ?_⟩
  cases (spelled.of_inspect rfl).1

end Pdu.CommandLine

end DeviceRpc
