import DeviceRpc.Link.Endpoint

/-!
# Addresses that are read back

An endpoint is printed as an address, and addresses are read as endpoints. What was read and is
printed reads as the same endpoint again, whatever port is preferred, with one exception: brackets
may hold a host that has no colon in it, so that it is printed without them, and such a host may be
nothing that an address can begin with (`Endpoint.NeedsBrackets`). Every other address gives an
endpoint that reads back (`Endpoint.reads_back`).
-/

namespace DeviceRpc

open Text (trimChars isBlank isDigit)

theorem Text.isBlank_of_isDigit {c : Char} (h : isDigit c = true) : isBlank c = false := by
  obtain ⟨low, high⟩ := Text.isDigit_iff.mp h
  simp [isBlank] at *
  omega

namespace Endpoint

/-- A character that the host of an address without brackets may begin with. -/
def Begins (c : Char) : Prop := isBlank c = false ∧ c ≠ '['

/-- The host has no colon in it and so is printed without brackets, but no address can begin with
it: it is empty, or a blank or another bracket is in front. -/
def NeedsBrackets : Endpoint → Prop
  | tcp host _ => ':' ∉ host.toList ∧ ∀ c ∈ host.toList.head?, ¬ Begins c
  | unix _ => False

/-- What an address without blanks around it can be read as. -/
inductive ReadFrom (addr : List Char) : Endpoint → Prop where
  | unix (slash : '/' ∈ addr) : ReadFrom addr (unix (String.ofList addr))
  | plain {host : String} {first : Char} {port : UInt16} (unslashed : '/' ∉ host.toList)
      (named : host.toList.head? = some first) (begins : Begins first)
      (uncoloned : ':' ∉ host.toList) : ReadFrom addr (tcp host port)
  | bracketed {host : String} {rest : List Char} {port : UInt16} (unslashed : '/' ∉ host.toList)
      (closed : ']' ∉ host.toList) (opens : addr = '[' :: host.toList ++ ']' :: rest) :
      ReadFrom addr (tcp host port)

variable {addr : List Char} {preferred : UInt16} {e : Endpoint}

/-! ## What is read -/

theorem ReadFrom.of_plain {host : List Char} {first : Char} {port : UInt16} (unslashed : '/' ∉ host)
    (named : host.head? = some first) (begins : Begins first) (uncoloned : ':' ∉ host) :
    ReadFrom addr (tcp (String.ofList host) port) := by
  rw [← @String.toList_ofList host] at unslashed named uncoloned
  exact .plain unslashed named begins uncoloned

theorem ReadFrom.of_bracketed {host rest : List Char} {port : UInt16} (unslashed : '/' ∉ host)
    (closed : ']' ∉ host) (opens : addr = '[' :: host ++ ']' :: rest) :
    ReadFrom addr (tcp (String.ofList host) port) := by
  rw [← @String.toList_ofList host] at unslashed closed opens
  exact .bracketed unslashed closed opens

theorem exists_of_map_tcp {host : String} {port : Except LinkFailure UInt16}
    (h : tcp host <$> port = .ok e) : ∃ p, e = tcp host p := by
  cases port with
  | error => cases h
  | ok p => exact ⟨p, (Except.ok.inj h).symm⟩

theorem readFrom_of_ofBracketed {rest : List Char} (unslashed : '/' ∉ rest)
    (h : ofBracketed addr rest preferred = .ok e) : ReadFrom ('[' :: rest) e := by
  unfold ofBracketed at h
  cases split : Text.splitFirst? ']' rest with
  | none =>
    rw [split] at h
    cases h
  | some parts =>
    obtain ⟨host, tail⟩ := parts
    rw [split] at h
    obtain ⟨rfl, closed⟩ := Text.splitFirst?_eq_some split
    have outside : '/' ∉ host := fun mem => unslashed (List.mem_append_left _ mem)
    obtain ⟨port, rfl⟩ : ∃ port, e = tcp (String.ofList host) port := by
      match tail, h with
      | [], h => exact ⟨preferred, (Except.ok.inj h).symm⟩
      | c :: p, h =>
        by_cases colon : c = ':'
        · subst colon
          exact exists_of_map_tcp h
        · simp at h
    exact .of_bracketed outside closed rfl

theorem readFrom_of_ofPlain {c : Char} {rest : List Char} (unslashed : '/' ∉ c :: rest)
    (begins : Begins c) (h : ofPlain (c :: rest) preferred = .ok e) : ReadFrom (c :: rest) e := by
  unfold ofPlain at h
  cases split : Text.splitFirst? ':' (c :: rest) with
  | none =>
    rw [split] at h
    cases h
    exact .of_plain unslashed rfl begins (Text.splitFirst?_eq_none_iff.mp split)
  | some parts =>
    obtain ⟨host, p⟩ := parts
    rw [split] at h
    obtain ⟨all, uncoloned⟩ := Text.splitFirst?_eq_some split
    simp only at h
    split at h
    next => cases h
    next =>
      obtain ⟨port, rfl⟩ := exists_of_map_tcp h
      cases host with
      | nil =>
        have begins : Begins 'l' := ⟨by decide, by decide⟩
        exact .plain (by decide) rfl begins (by decide)
      | cons d host =>
        obtain ⟨rfl, -⟩ := List.cons.inj all
        refine .of_plain ?_ rfl begins uncoloned
        rw [all] at unslashed
        exact fun mem => unslashed (List.mem_append_left _ mem)

/-- Whatever an address is read as, it is one of three forms. -/
theorem readFrom_of_ofTrimmed (bare : ∀ c ∈ addr.head?, isBlank c = false)
    (h : ofTrimmed addr preferred = .ok e) : ReadFrom addr e := by
  cases addr with
  | nil => cases h
  | cons c rest =>
    simp only [ofTrimmed] at h
    split at h
    next slash =>
      cases h
      exact .unix slash
    next slash =>
      split at h
      next opens =>
        subst opens
        exact readFrom_of_ofBracketed (fun mem => slash (List.mem_cons_of_mem _ mem)) h
      next opens => exact readFrom_of_ofPlain slash ⟨bare c rfl, opens⟩ h

theorem readFrom_of_parse {addr : String} (h : parse addr preferred = .ok e) :
    ReadFrom (trimChars addr.toList) e :=
  readFrom_of_ofTrimmed (fun _ => Text.isBlank_of_head?_trimChars) h

/-! ## What is printed -/

/-- The digits of a port. -/
def digits (port : UInt16) : List Char := Nat.toDigits 10 port.toNat

theorem isDigit_of_mem_digits {port : UInt16} {c : Char} (h : c ∈ digits port) :
    isDigit c = true :=
  Text.isDigit_of_mem_toDigits h

theorem not_mem_digits {port : UInt16} {c : Char} (h : isDigit c = false) : c ∉ digits port := by
  intro mem
  rw [isDigit_of_mem_digits mem] at h
  cases h

theorem port?_digits (addr : List Char) (port : UInt16) : port? addr (digits port) = .ok port := by
  have read : Text.u16? (String.ofList (digits port)) = some port := by
    rw [digits, ← Nat.toString_eq_ofList_toDigits]
    exact Text.u16?_toString port
  rw [port?, read]

theorem tcp_map_port? (addr : List Char) (host : String) (port : UInt16) :
    tcp host <$> port? addr (digits port) = .ok (tcp host port) := by
  rw [port?_digits]
  rfl

theorem toList_address_tcp (host : String) (port : UInt16) :
    (tcp host port).address.toList =
      (if ':' ∈ host.toList then '[' :: host.toList ++ [']'] else host.toList)
        ++ ':' :: digits port := by
  have digits : (toString port.toNat).toList = digits port := by
    rw [Nat.toString_eq_ofList_toDigits, String.toList_ofList]
    rfl
  rw [address, String.toList_append, String.toList_append, digits, List.append_assoc]
  split
  next => simp
  next => rfl

/-- An address that begins as addresses do and ends with a port has no blanks around it. -/
theorem trimChars_append_digits {cs : List Char} {first : Char} (port : UInt16)
    (starts : cs.head? = some first) (solid : isBlank first = false) :
    trimChars (cs ++ ':' :: digits port) = cs ++ ':' :: digits port := by
  apply Text.trimChars_eq_self
  · intro c mem
    simp only [List.head?_append, starts, Option.some_or, Option.mem_def, Option.some.injEq] at mem
    exact mem ▸ solid
  · intro c mem
    have some : (digits port).getLast?.isSome := by simp [digits]
    obtain ⟨d, last⟩ := Option.isSome_iff_exists.mp some
    simp only [List.getLast?_append, List.getLast?_cons, last] at mem
    cases mem
    exact Text.isBlank_of_isDigit (isDigit_of_mem_digits (List.mem_of_getLast? last))

/-! ## Reading what was printed -/

variable {host : String} {port : UInt16}

theorem parse_unix {addr : List Char} (slash : '/' ∈ addr) (bare : trimChars addr = addr)
    (preferred : UInt16) :
    parse (String.ofList addr) preferred = .ok (unix (String.ofList addr)) := by
  cases addr with
  | nil => cases slash
  | cons c rest => simp [parse, bare, ofTrimmed, slash]

/-- A host with a colon is printed in brackets and so read back. -/
theorem parse_address_of_colon (colon : ':' ∈ host.toList) (unslashed : '/' ∉ host.toList)
    (closed : ']' ∉ host.toList) (preferred : UInt16) :
    parse (tcp host port).address preferred = .ok (tcp host port) := by
  have printed : (tcp host port).address.toList
      = ('[' :: host.toList ++ [']']) ++ ':' :: digits port := by
    rw [toList_address_tcp, if_pos colon]
  have bare : trimChars (('[' :: host.toList ++ [']']) ++ ':' :: digits port) = _ :=
    trimChars_append_digits port rfl (by decide)
  have split : Text.splitFirst? ']' (host.toList ++ ']' :: ':' :: digits port)
      = some (host.toList, ':' :: digits port) := Text.splitFirst?_append closed
  have digits : '/' ∉ digits port := not_mem_digits (by decide)
  unfold parse
  rw [printed, bare]
  simp [ofTrimmed, ofBracketed, tcp_map_port?, split, unslashed, digits]

theorem ofPlain_digits {host : List Char} (present : host ≠ []) (uncoloned : ':' ∉ host)
    (preferred : UInt16) :
    ofPlain (host ++ ':' :: digits port) preferred = .ok (tcp (String.ofList host) port) := by
  have split : Text.splitFirst? ':' (host ++ ':' :: digits port) = some (host, digits port) :=
    Text.splitFirst?_append uncoloned
  have colons : ':' ∉ digits port := not_mem_digits (by decide)
  simp [ofPlain, split, colons, present, tcp_map_port?]

/-- A host that an address can begin with is read back as it is. -/
theorem parse_address_of_begins {first : Char} (named : host.toList.head? = some first)
    (begins : Begins first) (uncoloned : ':' ∉ host.toList) (unslashed : '/' ∉ host.toList)
    (preferred : UInt16) : parse (tcp host port).address preferred = .ok (tcp host port) := by
  have printed : (tcp host port).address.toList = host.toList ++ ':' :: digits port := by
    rw [toList_address_tcp, if_neg uncoloned]
  have slashes : '/' ∉ digits port := not_mem_digits (by decide)
  obtain ⟨rest, all⟩ := List.head?_eq_some_iff.mp named
  have present : host.toList ≠ [] := by simp [all]
  have plain : ofPlain (host.toList ++ ':' :: digits port) preferred = .ok (tcp host port) := by
    rw [ofPlain_digits present uncoloned, String.ofList_toList]
  unfold parse
  rw [printed, trimChars_append_digits port named begins.1]
  rw [all] at unslashed plain ⊢
  simp only [List.mem_cons, not_or] at unslashed
  simp_all [ofTrimmed, begins.2]

/-- Without the brackets that it needs, a host is not read back. -/
theorem parse_address_ne (closed : ']' ∉ host.toList) (needs : (tcp host port).NeedsBrackets)
    (preferred : UInt16) : parse (tcp host port).address preferred ≠ .ok (tcp host port) := by
  intro read
  obtain ⟨uncoloned, starts⟩ := needs
  cases readFrom_of_parse read with
  | plain _ named begins => exact starts _ named begins
  | @bracketed _ rest _ _ _ opens =>
    have inside : ']' ∈ (tcp host port).address.toList := by
      apply Text.mem_of_mem_trimChars
      simp [opens]
    rw [toList_address_tcp, if_neg uncoloned] at inside
    have unclosed : ']' ∉ digits port := not_mem_digits (by decide)
    simp [closed, unclosed] at inside

/-- **What was read reads back**, except a host that is spelled in brackets, needs them, and is
printed without them. -/
theorem reads_back {addr : String} {preferred : UInt16} {e : Endpoint}
    (read : parse addr preferred = .ok e) :
    (∀ preferred', parse e.address preferred' = .ok e ↔ ¬ e.NeedsBrackets) ∧
      (e.NeedsBrackets → (trimChars addr.toList).head? = some '[') := by
  cases readFrom_of_parse read with
  | unix slash =>
    have again := parse_unix slash (Text.trimChars_trimChars _)
    exact ⟨fun preferred' => iff_of_true (again preferred') id, nofun⟩
  | @plain host _ port unslashed named begins uncoloned =>
    have needless : ¬ (tcp host port).NeedsBrackets := fun needs => needs.2 _ named begins
    refine ⟨fun preferred' => iff_of_true ?_ needless, (absurd · needless)⟩
    exact parse_address_of_begins named begins uncoloned unslashed preferred'
  | @bracketed host _ port unslashed closed opens =>
    refine ⟨fun preferred' => ?_, fun _ => by rw [opens]; rfl⟩
    by_cases colon : ':' ∈ host.toList
    · exact iff_of_true (parse_address_of_colon colon unslashed closed preferred') (·.1 colon)
    · by_cases needs : (tcp host port).NeedsBrackets
      · exact iff_of_false (parse_address_ne closed needs preferred') (not_not_intro needs)
      · obtain ⟨first, named, begins⟩ : ∃ first, host.toList.head? = some first ∧ Begins first := by
          simpa [NeedsBrackets, colon] using needs
        exact iff_of_true (parse_address_of_begins named begins colon unslashed preferred') needs

/-- The address of a loopback reads back, although no port was given. -/
theorem reads_back_loopback : parse "[::1]" 9 = .ok (tcp "::1" 9) ∧
    ∀ preferred, parse (tcp "::1" 9).address preferred = .ok (tcp "::1" 9) := by
  have read : parse "[::1]" 9 = .ok (tcp "::1" 9) := by rfl
  have needless : ¬ (tcp "::1" 9).NeedsBrackets := fun needs => needs.1 (by decide)
  exact ⟨read, fun preferred => ((reads_back read).1 preferred).mpr needless⟩

/-- Brackets around nothing are read as a host without a name, which is printed as the local
host. -/
theorem lost_brackets : parse "[]:5" 1 = .ok (tcp "" 5) ∧ (tcp "" 5).address = ":5" ∧
    parse ":5" 1 = .ok (tcp "localhost" 5) ∧ parse (tcp "" 5).address 1 ≠ .ok (tcp "" 5) := by
  have printed : parse (tcp "" 5).address 1 = .ok (tcp "localhost" 5) := by rfl
  refine ⟨by rfl, by rfl, printed, ?_⟩
  rw [printed]
  simp

end Endpoint

end DeviceRpc
