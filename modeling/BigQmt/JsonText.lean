import BigQmt.Decimals
import BigQmt.Json
set_option autoImplicit false

/-!
The text that `json.dumps` gives for a document, and that documents without floats have
different texts.
-/

namespace BigQmt

section Escapes

def hex4 (n : Nat) : List Char :=
  [Nat.digitChar (n / 4096 % 16),Nat.digitChar (n / 256 % 16),Nat.digitChar (n / 16 % 16),
    Nat.digitChar (n % 16)]

/-- `\uXXXX` of a code point, or of its two surrogates. -/
def unicodeEscape (n : Nat) : List Char :=
  if n < 65536 then '\\' :: 'u' :: hex4 n
  else '\\' :: 'u' :: (hex4 (55296 + (n - 65536) / 1024) ++
    '\\' :: 'u' :: hex4 (56320 + (n - 65536) % 1024))

/-- One character of a string, with and without `ensure_ascii`. -/
def escapeChar (ascii : Bool) (c : Char) : List Char :=
  if c = '"' then ['\\','"']
  else if c = '\\' then ['\\','\\']
  else if c = '\n' then ['\\','n']
  else if c = '\r' then ['\\','r']
  else if c = '\t' then ['\\','t']
  else if c.toNat = 8 then ['\\','b']
  else if c.toNat = 12 then ['\\','f']
  else if c.toNat < 32 ∨ ascii ∧ 126 < c.toNat then unicodeEscape c.toNat
  else [c]

def quoted (ascii : Bool) (cs : List Char) : List Char :=
  '"' :: (cs.flatMap (escapeChar ascii) ++ ['"'])

def hexValue (c : Char) : Nat := if c ≤ '9' then c.toNat - 48 else c.toNat - 87

def readHex4 : List Char → Option (Nat × List Char)
  | a :: b :: c :: d :: rest =>
    some (hexValue a * 4096 + hexValue b * 256 + hexValue c * 16 + hexValue d,rest)
  | _ => none

/-- A character after `\u`. -/
def readUnicode (cs : List Char) : Option (Char × List Char) :=
  match readHex4 cs with
  | none => none
  | some (n,rest) =>
    if 55296 ≤ n ∧ n < 56320 then
      (readHex4 (rest.drop 2)).map fun low =>
        (Char.ofNat (65536 + (n - 55296) * 1024 + (low.1 - 56320)),low.2)
    else some (Char.ofNat n,rest)

/-- The first character of an escaped string. -/
def readChar : List Char → Option (Char × List Char)
  | '\\' :: '"' :: rest => some ('"',rest)
  | '\\' :: '\\' :: rest => some ('\\',rest)
  | '\\' :: 'n' :: rest => some ('\n',rest)
  | '\\' :: 'r' :: rest => some ('\r',rest)
  | '\\' :: 't' :: rest => some ('\t',rest)
  | '\\' :: 'b' :: rest => some (Char.ofNat 8,rest)
  | '\\' :: 'f' :: rest => some (Char.ofNat 12,rest)
  | '\\' :: 'u' :: rest => readUnicode rest
  | c :: rest => some (c,rest)
  | [] => none

theorem hexValue_digitChar {d : Nat} (h : d < 16) : hexValue (Nat.digitChar d) = d := by
  have hall : ∀ d < 16,hexValue (Nat.digitChar d) = d := by decide
  exact hall d h

theorem readHex4_hex4 {n : Nat} (h : n < 65536) (rest : List Char) :
    readHex4 (hex4 n ++ rest) = some (n,rest) := by
  have hsum : n / 4096 % 16 * 4096 + n / 256 % 16 * 256 + n / 16 % 16 * 16 + n % 16 = n := by omega
  simp only [hex4,List.cons_append,List.nil_append,readHex4,
    hexValue_digitChar (Nat.mod_lt _ (by decide : 0 < 16)),hsum]

/-- A code point is no surrogate. -/
theorem toNat_valid (c : Char) : c.toNat < 55296 ∨ 57343 < c.toNat ∧ c.toNat < 1114112 := c.valid

theorem readChar_unicodeEscape (c : Char) (rest : List Char) :
    readChar (unicodeEscape c.toNat ++ rest) = some (c,rest) := by
  have hvalid := toNat_valid c
  unfold unicodeEscape
  split_ifs with hsmall
  · have hread := readHex4_hex4 hsmall rest
    have hno : ¬(55296 ≤ c.toNat ∧ c.toNat < 56320) := by omega
    simp [readChar,readUnicode,hread,hno]
  · have hhigh := readHex4_hex4 (show 55296 + (c.toNat - 65536) / 1024 < 65536 by omega)
      ('\\' :: 'u' :: (hex4 (56320 + (c.toNat - 65536) % 1024) ++ rest))
    have hlow := readHex4_hex4 (show 56320 + (c.toNat - 65536) % 1024 < 65536 by omega) rest
    have hrange : 55296 ≤ 55296 + (c.toNat - 65536) / 1024 ∧
        55296 + (c.toNat - 65536) / 1024 < 56320 := by omega
    have hsum : 65536 + (55296 + (c.toNat - 65536) / 1024 - 55296) * 1024 +
        (56320 + (c.toNat - 65536) % 1024 - 56320) = c.toNat := by omega
    simp only [List.cons_append,List.append_assoc,readChar,readUnicode,hhigh,hrange,if_true,
      List.drop_succ_cons,List.drop_zero,hlow,Option.map_some,hsum,Char.ofNat_toNat,and_self]

/-- Every character is read back. -/
theorem readChar_escape (ascii : Bool) (c : Char) (rest : List Char) :
    readChar (escapeChar ascii c ++ rest) = some (c,rest) := by
  have hchar : ∀ {n : Nat},c.toNat = n → Char.ofNat n = c := by
    rintro n rfl
    exact Char.ofNat_toNat c
  unfold escapeChar
  split_ifs with hquote hback hn hr ht hb hf hu
  · simp [readChar,hquote]
  · simp [readChar,hback]
  · simp [readChar,hn]
  · simp [readChar,hr]
  · simp [readChar,ht]
  · simpa [readChar] using hchar hb
  · simpa [readChar] using hchar hf
  · exact readChar_unicodeEscape c rest
  · rw [List.cons_append,List.nil_append]
    unfold readChar
    split <;> simp_all

theorem escapeChar_head (ascii : Bool) (c : Char) :
    ∃ d rest,escapeChar ascii c = d :: rest ∧ d ≠ '"' := by
  unfold escapeChar unicodeEscape
  split_ifs <;> exact ⟨_,_,rfl,by first | assumption | decide⟩

/-- A string ends at its quotation mark, and is told by what stands before it. -/
theorem escaped_append {ascii : Bool} {cs ds r s : List Char}
    (h : cs.flatMap (escapeChar ascii) ++ '"' :: r = ds.flatMap (escapeChar ascii) ++ '"' :: s) :
    cs = ds ∧ r = s := by
  induction cs generalizing ds with
  | nil =>
    cases ds with
    | nil => simpa using h
    | cons d ds =>
      obtain ⟨c,rest,hc,hne⟩ := escapeChar_head ascii d
      rw [List.flatMap_cons,hc] at h
      exact absurd (List.cons.inj h).1.symm hne
  | cons c cs ih =>
    cases ds with
    | nil =>
      obtain ⟨d,rest,hd,hne⟩ := escapeChar_head ascii c
      rw [List.flatMap_cons,hd] at h
      exact absurd (List.cons.inj h).1 hne
    | cons d ds =>
      rw [List.flatMap_cons,List.flatMap_cons,List.append_assoc,List.append_assoc] at h
      have hread := congrArg readChar h
      rw [readChar_escape,readChar_escape] at hread
      obtain ⟨rfl,hrest⟩ := Prod.mk.inj (Option.some.inj hread)
      obtain ⟨rfl,hr⟩ := ih hrest
      exact ⟨rfl,hr⟩

theorem quoted_append {ascii : Bool} {cs ds r s : List Char}
    (h : quoted ascii cs ++ r = quoted ascii ds ++ s) : cs = ds ∧ r = s := by
  unfold quoted at h
  simp only [List.cons_append,List.append_assoc,List.nil_append,List.cons.injEq,true_and] at h
  exact escaped_append h

theorem quoted_injective (ascii : Bool) : Function.Injective (quoted ascii) := by
  intro cs ds h
  have happend : quoted ascii cs ++ [] = quoted ascii ds ++ [] := by rw [h]
  exact (quoted_append happend).1

end Escapes

section Dump

/-- `int.__repr__`. -/
def intText (n : Int) : List Char := (if n < 0 then ['-'] else []) ++ Nat.toDigits 10 n.natAbs

mutual

/-- `json.dumps(..., separators=(",", ":"), ensure_ascii=False)`, the keys as they stand. -/
def Json.dump : Json → List Char
  | .null => ['n','u','l','l']
  | .bool true => ['t','r','u','e']
  | .bool false => ['f','a','l','s','e']
  | .int n => intText n
  | .real digits => digits.toList
  | .text s => quoted false s.toList
  | .array items => '[' :: items.dump true
  | .object fields => '\x7b' :: fields.dump true

def Items.dump (first : Bool) : Items → List Char
  | .nil => [']']
  | .cons head tail => (if first then [] else [',']) ++ (head.dump ++ tail.dump false)

def Fields.dump (first : Bool) : Fields → List Char
  | .nil => ['\x7d']
  | .cons key value rest =>
    (if first then [] else [',']) ++
      (quoted false key.toList ++ ':' :: (value.dump ++ rest.dump false))

end

mutual

/-- No float occurs. -/
def Json.exact : Json → Bool
  | .real _ => false
  | .array items => items.exact
  | .object fields => fields.exact
  | _ => true

def Items.exact : Items → Bool
  | .nil => true
  | .cons head tail => head.exact && tail.exact

def Fields.exact : Fields → Bool
  | .nil => true
  | .cons _ value rest => value.exact && rest.exact

end

/-- What follows a value. -/
def ValueEnds (r : List Char) : Prop :=
  r = [] ∨ ∃ c rest,r = c :: rest ∧ (c = ',' ∨ c = ']' ∨ c = '\x7d')

theorem ValueEnds.noDigits {r : List Char} (h : ValueEnds r) : r.takeWhile Char.isDigit = [] := by
  obtain rfl | ⟨c,rest,rfl,hc⟩ := h
  · rfl
  · obtain rfl | rfl | rfl := hc <;> rfl

theorem ValueEnds.items (first : Items) (r : List Char) : ValueEnds (first.dump false ++ r) := by
  cases first with
  | nil => exact .inr ⟨']',r,by simp [Items.dump],by simp⟩
  | cons head tail =>
    exact .inr ⟨',',head.dump ++ tail.dump false ++ r,by simp [Items.dump],by simp⟩

theorem ValueEnds.fields (first : Fields) (r : List Char) : ValueEnds (first.dump false ++ r) := by
  cases first with
  | nil => exact .inr ⟨'\x7d',r,by simp [Fields.dump],by simp⟩
  | cons key value rest =>
    exact .inr ⟨',',quoted false key.toList ++ ':' :: (value.dump ++ (rest.dump false ++ r)),
      by simp [Fields.dump],by simp⟩

theorem digits_append {m n : Nat} {r s : List Char} (hr : ValueEnds r) (hs : ValueEnds s)
    (h : Nat.toDigits 10 m ++ r = Nat.toDigits 10 n ++ s) : m = n ∧ r = s := by
  obtain ⟨htake,hdrop⟩ := Decimals.span_digits r
    (fun _ => Decimals.isDigit_toDigits (n := m)) hr.noDigits
  obtain ⟨htake',hdrop'⟩ := Decimals.span_digits s
    (fun _ => Decimals.isDigit_toDigits (n := n)) hs.noDigits
  rw [h,htake'] at htake
  rw [h,hdrop'] at hdrop
  have hvalue := congrArg (fun cs => Nat.ofDigitChars 10 cs 0) htake
  simp only [Nat.ofDigitChars_ten_toDigits] at hvalue
  exact ⟨hvalue.symm,hdrop.symm⟩

theorem toDigits_head (n : Nat) : ∃ c rest,Nat.toDigits 10 n = c :: rest ∧ c.isDigit = true := by
  obtain ⟨c,rest,h⟩ := List.exists_cons_of_ne_nil (Nat.toDigits_ne_nil (n := n) (b := 10))
  exact ⟨c,rest,h,Decimals.isDigit_toDigits (by rw [h]; simp)⟩

theorem intText_append {m n : Int} {r s : List Char} (hr : ValueEnds r) (hs : ValueEnds s)
    (h : intText m ++ r = intText n ++ s) : m = n ∧ r = s := by
  obtain ⟨c,rest,hc,hdigit⟩ := toDigits_head m.natAbs
  obtain ⟨d,rest',hd,hdigit'⟩ := toDigits_head n.natAbs
  unfold intText at h
  split_ifs at h with hm hn hn
  · obtain ⟨habs,hrest⟩ := digits_append hr hs (List.cons.inj h).2
    exact ⟨by omega,hrest⟩
  · rw [hd] at h
    have hhead := (List.cons.inj h).1
    rw [← hhead] at hdigit'
    exact absurd hdigit' (by decide)
  · rw [hc] at h
    have hhead := (List.cons.inj h).1
    rw [hhead] at hdigit
    exact absurd hdigit (by decide)
  · obtain ⟨habs,hrest⟩ := digits_append hr hs h
    exact ⟨by omega,hrest⟩

/-- The kinds of values, which their first characters tell apart. -/
def Json.kind : Json → Nat
  | .null => 0
  | .bool _ => 1
  | .int _ | .real _ => 2
  | .text _ => 3
  | .array _ => 4
  | .object _ => 5

def leadKind (c : Char) : Nat :=
  if c = 'n' then 0
  else if c = 't' ∨ c = 'f' then 1
  else if c = '"' then 3
  else if c = '[' then 4
  else if c = '\x7b' then 5
  else if c = ']' then 6
  else 2

theorem intText_head (n : Int) : ∃ c rest,intText n = c :: rest ∧ leadKind c = 2 := by
  unfold intText
  split_ifs
  · exact ⟨'-',Nat.toDigits 10 n.natAbs,rfl,by decide⟩
  · obtain ⟨c,rest,hc,hdigit⟩ := toDigits_head n.natAbs
    refine ⟨c,rest,by simpa using hc,?_⟩
    have hne : ∀ d : Char,d.isDigit = false → c ≠ d := by
      rintro d hd rfl
      rw [hd] at hdigit
      cases hdigit
    simp [leadKind,hne 'n' (by decide),hne 't' (by decide),hne 'f' (by decide),
      hne '"' (by decide),hne '[' (by decide),hne '\x7b' (by decide),hne ']' (by decide)]

theorem Json.dump_head {j : Json} (h : j.exact = true) :
    ∃ c rest,j.dump = c :: rest ∧ leadKind c = j.kind := by
  cases j with
  | null => exact ⟨_,_,rfl,by decide⟩
  | bool b => cases b <;> exact ⟨_,_,rfl,by decide⟩
  | int n => simpa [Json.dump,Json.kind] using intText_head n
  | real digits => simp [Json.exact] at h
  | text s => exact ⟨'"',_,by rw [Json.dump,quoted],rfl⟩
  | array items => exact ⟨'[',_,by rw [Json.dump],rfl⟩
  | object fields => exact ⟨'\x7b',_,by rw [Json.dump],rfl⟩

theorem Json.kind_eq {j k : Json} {r s : List Char} (hj : j.exact = true) (hk : k.exact = true)
    (h : j.dump ++ r = k.dump ++ s) : j.kind = k.kind := by
  obtain ⟨c,rest,hc,hlead⟩ := Json.dump_head hj
  obtain ⟨d,rest',hd,hlead'⟩ := Json.dump_head hk
  rw [hc,hd] at h
  rw [← hlead,← hlead',(List.cons.inj h).1]

/-- A value does not begin as a list ends. -/
theorem Json.dump_ne {j : Json} (h : j.exact = true) (r s : List Char) :
    j.dump ++ r ≠ ']' :: s := by
  intro heq
  obtain ⟨c,rest,hc,hlead⟩ := Json.dump_head h
  rw [hc] at heq
  rw [(List.cons.inj heq).1] at hlead
  cases j <;> simp [Json.kind,leadKind] at hlead

mutual

theorem Json.dump_append (j k : Json) {r s : List Char} (hj : j.exact = true)
    (hk : k.exact = true) (hr : ValueEnds r) (hs : ValueEnds s) (h : j.dump ++ r = k.dump ++ s) :
    j = k ∧ r = s := by
  have hkind := Json.kind_eq hj hk h
  cases j with
  | null =>
    cases k <;> simp [Json.kind] at hkind
    simpa [Json.dump] using h
  | bool b =>
    cases k <;> simp [Json.kind] at hkind
    next c => cases b <;> cases c <;> simp [Json.dump] at h <;> simp [h]
  | int n =>
    cases k <;> simp [Json.kind] at hkind
    · next m =>
      simp only [Json.dump] at h
      obtain ⟨rfl,hrest⟩ := intText_append hr hs h
      exact ⟨rfl,hrest⟩
    · simp [Json.exact] at hk
  | real digits => simp [Json.exact] at hj
  | text t =>
    cases k <;> simp [Json.kind] at hkind
    next u =>
      simp only [Json.dump] at h
      obtain ⟨htext,hrest⟩ := quoted_append h
      exact ⟨by rw [String.toList_injective htext],hrest⟩
  | array items =>
    cases k <;> simp [Json.kind] at hkind
    next items' =>
      simp only [Json.dump,List.cons_append,List.cons.injEq,true_and] at h
      simp only [Json.exact] at hj hk
      obtain ⟨rfl,hrest⟩ := Items.dump_append true items items' hj hk h
      exact ⟨rfl,hrest⟩
  | object fields =>
    cases k <;> simp [Json.kind] at hkind
    next fields' =>
      simp only [Json.dump,List.cons_append,List.cons.injEq,true_and] at h
      simp only [Json.exact] at hj hk
      obtain ⟨rfl,hrest⟩ := Fields.dump_append true fields fields' hj hk h
      exact ⟨rfl,hrest⟩

theorem Items.dump_append (first : Bool) (a b : Items) {r s : List Char} (ha : a.exact = true)
    (hb : b.exact = true) (h : a.dump first ++ r = b.dump first ++ s) : a = b ∧ r = s := by
  cases a with
  | nil =>
    cases b with
    | nil => simpa [Items.dump] using h
    | cons head tail =>
      simp only [Items.exact,Bool.and_eq_true] at hb
      simp only [Items.dump,List.append_assoc] at h
      cases first with
      | true => exact absurd h.symm (Json.dump_ne hb.1 _ _)
      | false => simp at h
  | cons head tail =>
    simp only [Items.exact,Bool.and_eq_true] at ha
    cases b with
    | nil =>
      simp only [Items.dump,List.append_assoc] at h
      cases first with
      | true => exact absurd h (Json.dump_ne ha.1 _ _)
      | false => simp at h
    | cons head' tail' =>
      simp only [Items.exact,Bool.and_eq_true] at hb
      simp only [Items.dump,List.append_assoc] at h
      have hvalue := List.append_cancel_left h
      obtain ⟨rfl,hrest⟩ := Json.dump_append head head' ha.1 hb.1 (ValueEnds.items tail r)
        (ValueEnds.items tail' s) hvalue
      obtain ⟨rfl,hend⟩ := Items.dump_append false tail tail' ha.2 hb.2 hrest
      exact ⟨rfl,hend⟩

theorem Fields.dump_append (first : Bool) (a b : Fields) {r s : List Char} (ha : a.exact = true)
    (hb : b.exact = true) (h : a.dump first ++ r = b.dump first ++ s) : a = b ∧ r = s := by
  cases a with
  | nil =>
    cases b with
    | nil => simpa [Fields.dump] using h
    | cons key value rest => cases first <;> simp [Fields.dump,quoted] at h
  | cons key value rest =>
    simp only [Fields.exact,Bool.and_eq_true] at ha
    cases b with
    | nil => cases first <;> simp [Fields.dump,quoted] at h
    | cons key' value' rest' =>
      simp only [Fields.exact,Bool.and_eq_true] at hb
      simp only [Fields.dump,List.append_assoc] at h
      obtain ⟨hkey,hafter⟩ := quoted_append (List.append_cancel_left h)
      simp only [List.cons_append,List.append_assoc,List.cons.injEq,true_and] at hafter
      obtain ⟨rfl,hrest⟩ := Json.dump_append value value' ha.1 hb.1 (ValueEnds.fields rest r)
        (ValueEnds.fields rest' s) hafter
      obtain ⟨rfl,hend⟩ := Fields.dump_append false rest rest' ha.2 hb.2 hrest
      exact ⟨by rw [String.toList_injective hkey],hend⟩

end

theorem Json.dump_injective {j k : Json} (hj : j.exact = true) (hk : k.exact = true)
    (h : j.dump = k.dump) : j = k := by
  have happend : j.dump ++ [] = k.dump ++ [] := by rw [h]
  exact (Json.dump_append j k hj hk (.inl rfl) (.inl rfl) happend).1

end Dump

section SortKeys

/-- A key put among sorted ones. -/
def Fields.insertKey (key : String) (value : Json) : Fields → Fields
  | .nil => .cons key value .nil
  | .cons k v rest =>
    if k < key then .cons k v (rest.insertKey key value) else .cons key value (.cons k v rest)

mutual

/-- `sort_keys=True`. -/
def Json.sortKeys : Json → Json
  | .array items => .array items.sortKeys
  | .object fields => .object fields.sortKeys
  | j => j

def Items.sortKeys : Items → Items
  | .nil => .nil
  | .cons head tail => .cons head.sortKeys tail.sortKeys

def Fields.sortKeys : Fields → Fields
  | .nil => .nil
  | .cons key value rest => rest.sortKeys.insertKey key value.sortKeys

end

mutual

/-- Every integer has at most 4300 digits, the limit of its conversion to a string. -/
def Json.printable : Json → Bool
  | .int n => (Nat.toDigits 10 n.natAbs).length ≤ 4300
  | .array items => items.printable
  | .object fields => fields.printable
  | _ => true

def Items.printable : Items → Bool
  | .nil => true
  | .cons head tail => head.printable && tail.printable

def Fields.printable : Fields → Bool
  | .nil => true
  | .cons _ value rest => value.printable && rest.printable

end

/-- `json.dumps(..., sort_keys=True, separators=(",", ":"), ensure_ascii=False)`. -/
def Json.dumps (j : Json) : Option String :=
  if j.printable then some (String.ofList j.sortKeys.dump) else none

theorem Fields.get_insertKey (k key : String) (value : Json) : (fields : Fields) →
    (fields.insertKey key value).get k = if key = k then some value else fields.get k
  | .nil => rfl
  | .cons k' v rest => by
    have ih := Fields.get_insertKey k key value rest
    unfold Fields.insertKey
    split_ifs with hlt hkey hkey
    · have hne : k' ≠ k := by
        rintro rfl
        rw [hkey] at hlt
        exact String.lt_irrefl _ hlt
      rw [Fields.get,if_neg hne,ih,if_pos hkey]
    · rw [Fields.get,ih,if_neg hkey,Fields.get]
    · simp [Fields.get,hkey]
    · simp [Fields.get,hkey]

/-- Sorting moves no value to another key. -/
theorem Fields.get_sortKeys (k : String) : (fields : Fields) →
    fields.sortKeys.get k = (fields.get k).map Json.sortKeys
  | .nil => rfl
  | .cons key value rest => by
    have ih := Fields.get_sortKeys k rest
    rw [Fields.sortKeys,Fields.get_insertKey,ih,Fields.get]
    split_ifs <;> rfl

theorem Fields.exact_insertKey (key : String) (value : Json) : (fields : Fields) →
    (fields.insertKey key value).exact = (value.exact && fields.exact)
  | .nil => rfl
  | .cons k v rest => by
    have ih := Fields.exact_insertKey key value rest
    unfold Fields.insertKey
    split_ifs
    · simp [Fields.exact,ih,Bool.and_left_comm]
    · rfl

mutual

theorem Json.exact_sortKeys : (j : Json) → j.sortKeys.exact = j.exact
  | .null | .bool _ | .int _ | .real _ | .text _ => rfl
  | .array items => Items.exact_sortKeys items
  | .object fields => Fields.exact_sortKeys fields

theorem Items.exact_sortKeys : (items : Items) → items.sortKeys.exact = items.exact
  | .nil => rfl
  | .cons head tail => by
    rw [Items.sortKeys,Items.exact,Items.exact,Json.exact_sortKeys head,Items.exact_sortKeys tail]

theorem Fields.exact_sortKeys : (fields : Fields) → fields.sortKeys.exact = fields.exact
  | .nil => rfl
  | .cons key value rest => by
    rw [Fields.sortKeys,Fields.exact_insertKey,Fields.exact,Json.exact_sortKeys value,
      Fields.exact_sortKeys rest]

end

/-- Documents without floats of one text are the same up to the order of their keys. -/
theorem Json.dumps_inj {j k : Json} {x : String} (hj : j.exact = true) (hk : k.exact = true)
    (h : j.dumps = some x) (h' : k.dumps = some x) : j.sortKeys = k.sortKeys := by
  unfold Json.dumps at h h'
  split_ifs at h h'
  have htext := String.ofList_injective (Option.some.inj (h.trans h'.symm))
  exact Json.dump_injective (by rw [Json.exact_sortKeys,hj]) (by rw [Json.exact_sortKeys,hk]) htext

/-- Objects with the same distinct keys agree in every value if they agree when sorted. -/
theorem Fields.values_of_get {fs gs : List (String × Json)}
    (hkeys : fs.map Prod.fst = gs.map Prod.fst) (hnodup : (fs.map Prod.fst).Nodup)
    (h : ∀ k,k ∈ fs.map Prod.fst → ((Fields.ofList fs).get k).map Json.sortKeys =
      ((Fields.ofList gs).get k).map Json.sortKeys) :
    List.Forall₂ (fun p q => p.2.sortKeys = q.2.sortKeys) fs gs := by
  induction fs generalizing gs with
  | nil =>
    cases gs with
    | nil => exact .nil
    | cons => simp at hkeys
  | cons p fs ih =>
    cases gs with
    | nil => simp at hkeys
    | cons q gs =>
      obtain ⟨key,v⟩ := p
      obtain ⟨key',w⟩ := q
      simp only [List.map_cons,List.cons.injEq] at hkeys
      obtain ⟨rfl,hrest⟩ := hkeys
      obtain ⟨hnotin,hnodup⟩ := List.nodup_cons.1 hnodup
      have hhead := h key (by simp)
      refine .cons (by simpa [Fields.ofList,Fields.get] using hhead) (ih hrest hnodup ?_)
      intro k hk
      have hne : key ≠ k := by
        rintro rfl
        exact hnotin hk
      have hk' := h k (List.mem_cons_of_mem _ hk)
      simpa [Fields.ofList,Fields.get,hne] using hk'

theorem Fields.values_of_sortKeys {fs gs : List (String × Json)}
    (hkeys : fs.map Prod.fst = gs.map Prod.fst) (hnodup : (fs.map Prod.fst).Nodup)
    (h : (Fields.ofList fs).sortKeys = (Fields.ofList gs).sortKeys) :
    List.Forall₂ (fun p q => p.2.sortKeys = q.2.sortKeys) fs gs := by
  apply Fields.values_of_get hkeys hnodup
  intro k hk
  rw [← Fields.get_sortKeys,← Fields.get_sortKeys,h]

end SortKeys

end BigQmt
