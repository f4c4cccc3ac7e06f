import Mathlib.Data.Nat.Basic

namespace TicketSystem

/-- Postgres `lpad`: exactly `n` characters, padded on the left or cut on the right. -/
def lpad (s : String) (n : Nat) (c : Char) : String :=
  String.ofList ((s.toList.leftpad n c).take n)

/-- The default of `ticket_number` for the sequence value `n`. -/
def ticketNumber (n : Nat) : String := "TKT-" ++ lpad (toString n) 4 '0'

theorem ticketNumber_eq_iff {m n : Nat} :
    ticketNumber m = ticketNumber n ↔
      ((Nat.toDigits 10 m).leftpad 4 '0').take 4 = ((Nat.toDigits 10 n).leftpad 4 '0').take 4 := by
  rw [← String.toList_inj]
  simp [ticketNumber, lpad]

/-- Up to four digits nothing is cut, and the padded text still spells the number. -/
theorem take_leftpad_of_short {n : Nat} (h : n ≤ 9999) :
    Nat.ofDigitChars 10 (((Nat.toDigits 10 n).leftpad 4 '0').take 4) 0 = n := by
  have hlen : (Nat.toDigits 10 n).length ≤ 4 :=
    (Nat.length_toDigits_le_iff (by omega) (by omega)).mpr (by omega)
  have hall : ((Nat.toDigits 10 n).leftpad 4 '0').length ≤ 4 := by
    simp only [List.leftpad, List.length_append, List.length_replicate]
    omega
  rw [List.take_of_length_le hall, List.leftpad, Nat.ofDigitChars_append]
  simp

theorem ticketNumber_injective {m n : Nat} (hm : m ≤ 9999) (hn : n ≤ 9999)
    (h : ticketNumber m = ticketNumber n) : m = n := by
  have := congrArg (fun cs => Nat.ofDigitChars 10 cs 0) (ticketNumber_eq_iff.mp h)
  simpa only [take_leftpad_of_short hm, take_leftpad_of_short hn] using this

/-- From five digits on the last digit is cut, so dropping it changes nothing. -/
theorem ticketNumber_div {n : Nat} (h : 10000 ≤ n) : ticketNumber (n / 10) = ticketNumber n := by
  have hlen : 4 ≤ (Nat.toDigits 10 (n / 10)).length := by
    have := (Nat.length_toDigits_le_iff (b := 10) (n := n / 10) (k := 3) (by omega) (by omega)).not
    omega
  have hlen' : 4 ≤ (Nat.toDigits 10 n).length := by
    have := (Nat.length_toDigits_le_iff (b := 10) (n := n) (k := 3) (by omega) (by omega)).not
    omega
  rw [ticketNumber_eq_iff, List.leftpad, List.leftpad, Nat.sub_eq_zero_of_le hlen,
    Nat.sub_eq_zero_of_le hlen', Nat.toDigits_of_base_le (b := 10) (n := n) (by omega) (by omega)]
  simp [List.take_append_of_le_length hlen]

/-- A number is unlike every number before it exactly while it has four digits. -/
theorem ticketNumber_new_iff {n : Nat} :
    (∀ m, 1 ≤ m → m < n → ticketNumber m ≠ ticketNumber n) ↔ n ≤ 9999 := by
  constructor
  · intro h
    by_contra hn
    exact h (n / 10) (by omega) (by omega) (ticketNumber_div (by omega))
  · intro hn m _ hm heq
    have := ticketNumber_injective (by omega) hn heq
    omega

end TicketSystem
