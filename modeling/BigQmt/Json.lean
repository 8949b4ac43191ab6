import Mathlib.Algebra.Order.Ring.Int
set_option autoImplicit false

/-!
JSON documents and the files that hold them. `json.dumps` with sorted keys and
fixed separators has one spelling for each document, so a file it wrote is
represented by its document; an object lists its keys in that order, and a
float is the text `repr` gives.
-/

namespace BigQmt

mutual

inductive Json where
  | null
  | bool (b : Bool)
  | int (n : Int)
  | real (digits : String)
  | text (s : String)
  | array (items : Items)
  | object (fields : Fields)
  deriving DecidableEq

inductive Items where
  | nil
  | cons (head : Json) (tail : Items)
  deriving DecidableEq

inductive Fields where
  | nil
  | cons (key : String) (value : Json) (rest : Fields)
  deriving DecidableEq

end

def Fields.ofList : List (String × Json) → Fields
  | [] => .nil
  | (key,value) :: rest => .cons key value (.ofList rest)

def Items.ofList : List Json → Items
  | [] => .nil
  | head :: tail => .cons head (.ofList tail)

/-- `dict.get(key)`. -/
def Fields.get (key : String) : Fields → Option Json
  | .nil => none
  | .cons k v rest => if k = key then some v else rest.get key

def Json.str : Json → Option String
  | .text s => some s
  | _ => none

def Json.num : Json → Option Int
  | .int n => some n
  | _ => none

def Json.dict : Json → Option Fields
  | .object fields => some fields
  | _ => none

def Items.toList : Items → List Json
  | .nil => []
  | .cons head tail => head :: tail.toList

def Json.list : Json → Option (List Json)
  | .array items => some items.toList
  | _ => none

/-- `bool(value)`. -/
def Json.truthy : Json → Bool
  | .null => false
  | .bool b => b
  | .int n => n ≠ 0
  | .real digits => digits ∉ ["0.0","-0.0"]
  | .text s => s ≠ ""
  | .array items => items ≠ .nil
  | .object fields => fields ≠ .nil

/-- `isinstance(value, int)`, which a Python `bool` passes. -/
def Json.integral : Json → Option Int
  | .int n => some n
  | .bool b => some (if b then 1 else 0)
  | _ => none

/-- The bytes `json.dumps` writes for one character of a string. -/
def escapedSize (c : Char) : Nat :=
  if c = '"' || c = '\\' || c = '\n' || c = '\r' || c = '\t' || c.toNat = 8 || c.toNat = 12 then 2
  else if c.toNat < 32 then 6
  else c.utf8Size

def textSize (s : String) : Nat := 2 + (s.toList.map escapedSize).sum

mutual

/-- The length in bytes of `json.dumps(..., ensure_ascii=False, separators=(",", ":"))`. -/
def Json.size : Json → Nat
  | .null => 4
  | .bool b => if b then 4 else 5
  | .int n => (toString n).length
  | .real digits => digits.length
  | .text s => textSize s
  | .array items => 1 + max 1 items.size
  | .object fields => 1 + max 1 fields.size

def Items.size : Items → Nat
  | .nil => 0
  | .cons head tail => head.size + 1 + tail.size

def Fields.size : Fields → Nat
  | .nil => 0
  | .cons key value rest => textSize key + 1 + value.size + 1 + rest.size

end

/-- The bytes of a file: what `json.loads` reads in them, how many there are,
whether they are one line, and which of the texts with that reading they are. -/
structure Raw where
  document : Option Json
  size : Nat
  oneLine : Bool
  spelling : Nat
  deriving DecidableEq

/-- `(json.dumps(document) + "\n").encode("utf-8")`: line breaks inside are escaped. -/
def Raw.dumps (document : Json) : Raw := ⟨some document,document.size + 1,true,0⟩

theorem Raw.dumps_injective {a b : Json} (h : Raw.dumps a = Raw.dumps b) : a = b := by
  simp only [Raw.dumps,Raw.mk.injEq,Option.some.injEq] at h
  exact h.1

example : (Json.object (.cons "a" (.int (-12)) (.cons "b" (.array (.cons .null .nil)) .nil))).size
    = "\x7b\"a\":-12,\"b\":[null]\x7d".length := by decide

end BigQmt
