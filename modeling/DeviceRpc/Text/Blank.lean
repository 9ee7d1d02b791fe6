/-!
# Blank space

The characters with the Unicode property `White_Space`, and trimming by them.
-/

namespace DeviceRpc.Text

/-- The property `White_Space`: tab to carriage return, the spaces, and the two
separators of lines and paragraphs. -/
def isBlank (c : Char) : Bool :=
  let n := c.toNat
  (9 ≤ n && n ≤ 13) || n = 0x20 || n = 0x85 || n = 0xA0 || n = 0x1680
    || (0x2000 ≤ n && n ≤ 0x200A) || n = 0x2028 || n = 0x2029 || n = 0x202F || n = 0x205F
    || n = 0x3000

/-- Characters without the blank ones at either end. -/
def trimChars (cs : List Char) : List Char :=
  ((cs.dropWhile isBlank).reverse.dropWhile isBlank).reverse

/-- Text without the blank characters at either end. -/
def trim (s : String) : String := String.ofList (trimChars s.toList)

theorem dropWhile_isBlank_eq_self {cs : List Char} (h : ∀ c ∈ cs.head?, isBlank c = false) :
    cs.dropWhile isBlank = cs := by
  cases cs with
  | nil => rfl
  | cons c cs => exact List.dropWhile_cons_of_neg (by simp [h c rfl])

theorem isBlank_of_head?_dropWhile {cs : List Char} {c : Char}
    (h : c ∈ (cs.dropWhile isBlank).head?) : isBlank c = false := by
  have first := List.head?_dropWhile_not isBlank cs
  rwa [Option.mem_def.mp h] at first

/-- Where no blank stands at either end, nothing is trimmed. -/
theorem trimChars_eq_self {cs : List Char} (first : ∀ c ∈ cs.head?, isBlank c = false)
    (last : ∀ c ∈ cs.getLast?, isBlank c = false) : trimChars cs = cs := by
  unfold trimChars
  rw [dropWhile_isBlank_eq_self first, dropWhile_isBlank_eq_self, List.reverse_reverse]
  rwa [List.head?_reverse]

theorem trimChars_isPrefix_dropWhile (cs : List Char) : trimChars cs <+: cs.dropWhile isBlank := by
  rw [← List.reverse_suffix, trimChars, List.reverse_reverse]
  exact List.dropWhile_suffix _

theorem mem_of_mem_trimChars {cs : List Char} {c : Char} (h : c ∈ trimChars cs) : c ∈ cs :=
  (List.dropWhile_sublist isBlank).subset ((trimChars_isPrefix_dropWhile cs).subset h)

theorem isBlank_of_head?_trimChars {cs : List Char} {c : Char} (h : c ∈ (trimChars cs).head?) :
    isBlank c = false := by
  obtain ⟨tail, split⟩ := trimChars_isPrefix_dropWhile cs
  refine (isBlank_of_head?_dropWhile : c ∈ (cs.dropWhile isBlank).head? → _) ?_
  rw [← split, List.head?_append, Option.mem_def.mp h]
  rfl

theorem isBlank_of_getLast?_trimChars {cs : List Char} {c : Char}
    (h : c ∈ (trimChars cs).getLast?) : isBlank c = false := by
  rw [trimChars, List.getLast?_reverse] at h
  exact isBlank_of_head?_dropWhile h

theorem trimChars_trimChars (cs : List Char) : trimChars (trimChars cs) = trimChars cs :=
  trimChars_eq_self (fun _ => isBlank_of_head?_trimChars) fun _ => isBlank_of_getLast?_trimChars

end DeviceRpc.Text
