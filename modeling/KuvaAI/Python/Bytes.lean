import Mathlib.Data.List.Basic

/-! Byte strings, and the UTF-8 form in which `str.encode()` hands them out. -/
namespace KuvaAI.Python

abbrev Bytes := List UInt8

def encode (s : String) : Bytes := s.toList.flatMap String.utf8EncodeChar

theorem encode_append (s t : String) : encode (s ++ t) = encode s ++ encode t := by
  simp [encode, String.toList_append]

theorem encode_injective {s t : String} (same : encode s = encode t) : s = t := by
  have encoded : s.toList.utf8Encode = t.toList.utf8Encode := by
    simp only [List.utf8Encode]
    exact congrArg List.toByteArray same
  rw [String.utf8Encode_toList, String.utf8Encode_toList] at encoded
  exact String.toByteArray_inj.mp encoded

theorem utf8EncodeChar_ascii {c : Char} (ascii : c.toNat < 128) :
    String.utf8EncodeChar c = [UInt8.ofNat c.toNat] := by
  have small : c.toNat ≤ 127 := by omega
  simp [String.utf8EncodeChar, small]

theorem encode_head {s : String} {c : Char} {rest : List Char} (starts : s.toList = c :: rest)
    (ascii : c.toNat < 128) :
    encode s = UInt8.ofNat c.toNat :: rest.flatMap String.utf8EncodeChar := by
  rw [encode, starts, List.flatMap_cons, utf8EncodeChar_ascii ascii, List.singleton_append]

/-- `data.split(sep, 1)` with a separator that is not empty; `none` where the
separator does not occur and the one part is the data itself. -/
def splitOnce (sep : Bytes) : Bytes → Option (Bytes × Bytes)
  | [] => none
  | b :: rest =>
    if sep.isPrefixOf (b :: rest) then some ([], (b :: rest).drop sep.length)
    else (splitOnce sep rest).map (fun parts => (b :: parts.1, parts.2))

theorem splitOnce_eq {sep data before after : Bytes}
    (split : splitOnce sep data = some (before, after)) : data = before ++ sep ++ after := by
  induction data generalizing before with
  | nil => cases split
  | cons b rest ih =>
    rw [splitOnce] at split
    split at split
    · rename_i starts
      obtain ⟨tail, joined⟩ := List.isPrefixOf_iff_prefix.mp starts
      cases split
      rw [← joined]
      simp
    · obtain ⟨parts, found, same⟩ := Option.map_eq_some_iff.mp split
      cases same
      rw [ih found]
      rfl

theorem splitOnce_of_occurs {sep : Bytes} (nonempty : sep ≠ []) (before after : Bytes) :
    ∃ parts, splitOnce sep (before ++ sep ++ after) = some parts := by
  induction before with
  | nil =>
    cases sep with
    | nil => exact absurd rfl nonempty
    | cons b rest =>
      have starts : (b :: rest).isPrefixOf (b :: (rest ++ after)) = true :=
        List.isPrefixOf_iff_prefix.mpr ⟨after, rfl⟩
      exact ⟨_, by rw [List.nil_append, List.cons_append, splitOnce, if_pos starts]⟩
  | cons b before ih =>
    obtain ⟨parts, found⟩ := ih
    rw [List.cons_append, List.cons_append, splitOnce, found]
    split
    · exact ⟨_, rfl⟩
    · exact ⟨_, rfl⟩

def hexDigit (n : Nat) : Char := "0123456789abcdef".toList.getD n '0'

def hex (data : Bytes) : String :=
  String.ofList (data.flatMap (fun b => [hexDigit (b.toNat / 16), hexDigit (b.toNat % 16)]))

def base64Digit (n : Nat) : Char :=
  "ABCDEFGHIJKLMNOPQRSTUVWXYZabcdefghijklmnopqrstuvwxyz0123456789+/".toList.getD n 'A'

def base64Digits : Bytes → List Char
  | [] => []
  | [a] => [base64Digit (a.toNat / 4), base64Digit (a.toNat % 4 * 16), '=', '=']
  | [a, b] =>
    [base64Digit (a.toNat / 4), base64Digit (a.toNat % 4 * 16 + b.toNat / 16),
      base64Digit (b.toNat % 16 * 4), '=']
  | a :: b :: c :: rest =>
    base64Digit (a.toNat / 4) :: base64Digit (a.toNat % 4 * 16 + b.toNat / 16) ::
      base64Digit (b.toNat % 16 * 4 + c.toNat / 64) :: base64Digit (c.toNat % 64) ::
      base64Digits rest

def base64 (data : Bytes) : String := String.ofList (base64Digits data)

example : base64 (encode "id:key") = "aWQ6a2V5" := by decide

theorem base64_ne_empty {data : Bytes} (nonempty : data ≠ []) : base64 data ≠ "" := by
  intro empty
  have digits : base64Digits data = [] := by
    rw [base64, String.ofList_eq_empty_iff] at empty
    exact empty
  cases data using base64Digits.fun_cases with
  | case1 => exact nonempty rfl
  | case2 a => cases digits
  | case3 a b => cases digits
  | case4 a b c rest => cases digits

end KuvaAI.Python
