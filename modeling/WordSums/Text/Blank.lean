/-!
# Blanks

White space is the Unicode property White_Space. Leading blanks are what a lexer skips between
tokens, both ends are trimmed from a line of a session, and the first word of a text is what lies
before its first blank. Each function comes with the lemmas that pin it down: nothing but blanks is
dropped, and what is kept starts with none.
-/

namespace WordSums.Text

/-- The 25 code points with the property White_Space. -/
def isBlank (char : Char) : Bool :=
  let code := char.toNat
  (9 ≤ code && code ≤ 13) || code == 0x20 || code == 0x85 || code == 0xa0 || code == 0x1680 ||
    (0x2000 ≤ code && code ≤ 0x200a) || code == 0x2028 || code == 0x2029 || code == 0x202f ||
    code == 0x205f || code == 0x3000

def trimStart (text : List Char) : List Char :=
  text.dropWhile isBlank

def trimEnd (text : List Char) : List Char :=
  (text.reverse.dropWhile isBlank).reverse

def trim (text : List Char) : List Char :=
  trimEnd (trimStart text)

/-- What lies before the first blank, once leading blanks are gone. -/
def firstWord (text : List Char) : List Char :=
  (trimStart text).takeWhile fun char => !isBlank char

theorem takeWhile_append_trimStart (text : List Char) : text.takeWhile isBlank ++ trimStart text = text :=
  List.takeWhile_append_dropWhile

theorem isBlank_of_mem_takeWhile {text : List Char} {char : Char} (hmem : char ∈ text.takeWhile isBlank) :
    isBlank char = true := by
  induction text with
  | nil => simp at hmem
  | cons head tail ih =>
    by_cases hhead : isBlank head
    · rw [List.takeWhile_cons_of_pos hhead] at hmem
      rcases List.mem_cons.1 hmem with rfl | htail
      · exact hhead
      · exact ih htail
    · rw [List.takeWhile_cons_of_neg hhead] at hmem
      simp at hmem

/-- What is left after trimming does not start with a blank. -/
theorem isBlank_head_trimStart {text rest : List Char} {char : Char} (htrim : trimStart text = char :: rest) :
    isBlank char = false := by
  induction text with
  | nil => simp [trimStart] at htrim
  | cons head tail ih =>
    by_cases hhead : isBlank head
    · rw [trimStart, List.dropWhile_cons_of_pos hhead] at htrim
      exact ih htrim
    · rw [trimStart, List.dropWhile_cons_of_neg hhead] at htrim
      cases htrim
      simpa using hhead

theorem trimStart_eq_self {text : List Char} (hhead : ∀ char ∈ text.head?, isBlank char = false) :
    trimStart text = text := by
  cases text with
  | nil => rfl
  | cons char rest => exact List.dropWhile_cons_of_neg (by simp [hhead char rfl])

theorem trim_eq_self {text : List Char} (hhead : ∀ char ∈ text.head?, isBlank char = false)
    (hlast : ∀ char ∈ text.getLast?, isBlank char = false) : trim text = text := by
  have hreverse : trimStart text.reverse = text.reverse := trimStart_eq_self (by rwa [List.head?_reverse])
  rw [trim, trimStart_eq_self hhead, trimEnd, ← trimStart, hreverse, List.reverse_reverse]

theorem trimStart_length_le (text : List Char) : (trimStart text).length ≤ text.length :=
  (List.dropWhile_sublist isBlank).length_le

end WordSums.Text
