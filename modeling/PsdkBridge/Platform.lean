import PsdkBridge.Lib.JsonText
import PsdkBridge.Lib.Numerals

/-!
# The libraries under the daemon

`json-c` and the conversions of the C library that the daemon relies on are not
part of the repository.  What is left open about them is collected in
`Platform`; the accessors of `json-c` that the daemon calls are defined on top
of it, following their documentation.

A `json_object *` is a `Json` value, and `Json.null` is the NULL pointer: this
is how `json-c` itself represents the JSON value `null`.
-/

namespace PsdkBridge

/-- The open parameters of the libraries. -/
structure Platform where
  /-- `json_tokener_parse_ex`: the first complete value of the input, with
  `json_tokener_get_parse_end`, the number of bytes read. -/
  tokenerParseEx : Bytes → Option (Json × Nat)
  /-- `json_object_to_json_string`. -/
  toJsonString : Json → Bytes
  /-- The integer a string is converted to, if it is numeric. -/
  parseInt64 : Bytes → Option Int
  /-- The double a string is converted to, if it is numeric. -/
  strtod : Bytes → Option FNum
  /-- The conversion `%.Nf`. -/
  fmtFixed : Nat → FNum → Bytes
  /-- The text of `%s` for a NULL argument. -/
  nullText : Bytes

/-- `json_object_is_type(obj, json_type_object)`. -/
def jsonObjectIsObject : Json → Bool
  | .obj _ => true
  | _ => false

/-- `json_object_object_get_ex`: a member is found also when its value is
`null`.  Of several members with one name the last one counts. -/
def jsonObjectObjectGetEx (obj : Json) (key : Bytes) : Option Json :=
  match obj with
  | .obj members => (members.reverse.find? (fun m => m.1 == key)).map Prod.snd
  | _ => none

/-- Truncation of a rational towards zero. -/
def truncate (q : ℚ) : Int :=
  if q < 0 then ⌈q⌉ else ⌊q⌋

/-- `json_object_get_int`. -/
def jsonObjectGetInt (P : Platform) : Json → Int32
  | .null => 0
  | .bool b => if b then 1 else 0
  | .int i => Int32.ofIntClamp i
  | .dbl (.fin q) => Int32.ofIntClamp (truncate q)
  | .dbl (.inf neg) => if neg then Int32.minValue else Int32.maxValue
  | .dbl .nan => Int32.minValue
  | .str s =>
      match P.parseInt64 s with
      | some i => Int32.ofIntClamp i
      | none => 0
  | .arr _ => 0
  | .obj _ => 0

/-- `json_object_get_double`. -/
def jsonObjectGetDouble (P : Platform) : Json → FNum
  | .null => .fin 0
  | .bool b => if b then .fin 1 else .fin 0
  | .int i => binary64.round i
  | .dbl d => d
  | .str s => (P.strtod s).getD (.fin 0)
  | .arr _ => .fin 0
  | .obj _ => .fin 0

/-- `json_object_get_string`: the bytes of a string, the text of any other
value, and NULL for `null`. -/
def jsonObjectGetString (P : Platform) : Json → Option Bytes
  | .null => none
  | .str s => some s
  | v => some (P.toJsonString v)

/-! ## A concrete platform -/

/-- The conversion `%.Nf` on exact values. -/
def fixedText (n : Nat) : FNum → Bytes
  | .nan => ascii "nan"
  | .inf neg => if neg then ascii "-inf" else ascii "inf"
  | .fin q =>
      let k := (roundHalfEven (|q| * 10 ^ n)).toNat
      let frac := decNat (k % 10 ^ n)
      (if q < 0 then ascii "-" else []) ++ decNat (k / 10 ^ n) ++ ascii "." ++
        List.replicate (n - frac.length) 48 ++ frac

mutual

/-- What `json-c` stores of a value: integers are cut to 64 bits, and other numbers
are rounded to the type `double`. -/
def Json.stored : Json → Json
  | .int i => .int (max (-2 ^ 63) (min i (2 ^ 64 - 1)))
  | .dbl d => .dbl (binary64.convert d)
  | .arr elems => .arr (storedElems elems)
  | .obj members => .obj (storedMembers members)
  | .null => .null
  | .bool b => .bool b
  | .str s => .str s

def storedElems : List Json → List Json
  | [] => []
  | v :: vs => v.stored :: storedElems vs

def storedMembers : List (Bytes × Json) → List (Bytes × Json)
  | [] => []
  | (k, v) :: ms => (k, v.stored) :: storedMembers ms

end

/-- The tokener on texts that follow the JSON grammar. -/
def readFirstValue (s : Bytes) : Option (Json × Nat) :=
  (readValue (s.length + 1) s).map (fun p => (p.1.stored, s.length - p.2.length))

/-- `json_parse_int64`: what `strtoll` reads, if it finds a digit. -/
def jsonParseInt64 (s : Bytes) : Option Int :=
  let p := splitSign (s.dropWhile isSpace)
  if p.2.takeWhile isDigit = [] then none else some (strtol s)

/-- A platform on which requests that follow the JSON grammar can be run. -/
def gnuPlatform : Platform where
  tokenerParseEx := readFirstValue
  toJsonString
    | .bool b => if b then ascii "true" else ascii "false"
    | .int i => decInt i
    | .dbl d => fixedText 6 d
    | _ => ascii "null"
  parseInt64 := jsonParseInt64
  strtod s :=
    match readNumber s with
    | some (.int i, []) => some (binary64.round i)
    | some (.dbl d, []) => some (binary64.convert d)
    | _ => none
  fmtFixed := fixedText
  nullText := ascii "(null)"

/-! ### Values that are stored as they are -/

/-- The value is stored as it is. -/
def Json.Storable (v : Json) : Prop :=
  v.stored = v

theorem storable_int
    {i : Int}
    (h : -2 ^ 63 ≤ i ∧ i < 2 ^ 64) :
    (Json.int i).Storable := by
  have hcut : max (-2 ^ 63) (min i (2 ^ 64 - 1)) = i := by omega
  rw [Json.Storable, Json.stored, hcut]

theorem storable_str
    (s : Bytes) :
    (Json.str s).Storable := by
  rfl

/-- A number that the type `double` holds. -/
theorem storable_dbl
    {q : ℚ}
    (h : binary64.round q = .fin q) :
    (Json.dbl (.fin q)).Storable := by
  rw [Json.Storable, Json.stored, BinFormat.convert, h]

theorem storable_arr
    {elems : List Json}
    (h : ∀ v ∈ elems, v.Storable) :
    (Json.arr elems).Storable := by
  have helems : storedElems elems = elems := by
    induction elems with
    | nil =>
        rfl
    | cons v elems ih =>
        have hv : v.stored = v := h v List.mem_cons_self
        rw [storedElems, hv, ih fun v hv => h v (List.mem_cons_of_mem _ hv)]
  rw [Json.Storable, Json.stored, helems]

theorem storable_obj
    {members : List (Bytes × Json)}
    (h : ∀ m ∈ members, m.2.Storable) :
    (Json.obj members).Storable := by
  have hmembers : storedMembers members = members := by
    induction members with
    | nil =>
        rfl
    | cons m members ih =>
        obtain ⟨k, v⟩ := m
        have hv : v.stored = v := h (k, v) List.mem_cons_self
        rw [storedMembers, hv, ih fun m hm => h m (List.mem_cons_of_mem _ hm)]
  rw [Json.Storable, Json.stored, hmembers]

end PsdkBridge
