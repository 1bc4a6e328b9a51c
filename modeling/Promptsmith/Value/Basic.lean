import Promptsmith.Vocabulary

/-!
# Dynamic values

What a caller can put under a name: scalars, words of the closed vocabularies, sequences of two
kinds and ordered mappings. A mapping is the list of its entries with distinct keys, oldest first.
-/
namespace Promptsmith

/-- A word of one of the vocabularies that values can hold. -/
inductive Label where
  | experience (word : Experience)
  | phase (word : Phase)
  | focus (word : Focus)
  | usage (word : Usage)
  | complexity (word : Complexity)
  deriving DecidableEq, Repr

/-- The word itself. -/
def Label.text : Label → String
  | .experience w => w.name
  | .phase w => w.name
  | .focus w => w.name
  | .usage w => w.name
  | .complexity w => w.name

/-- The name of the vocabulary. -/
def Label.kind : Label → String
  | .experience _ => "UserExperience"
  | .phase _ => "DevelopmentPhase"
  | .focus _ => "VariantFocus"
  | .usage _ => "FeedbackUsage"
  | .complexity _ => "Complexity"

/-- The word as a constant is written: capitals, and underscores for hyphens. -/
def Label.constant (l : Label) : String :=
  String.ofList (l.text.toList.map fun c => if c = '-' then '_' else c.toUpper)

inductive Value where
  | null
  | bool (b : Bool)
  | int (n : Int)
  | float (x : Float)
  | text (s : String)
  | label (l : Label)
  | list (items : List Value)
  | tuple (items : List Value)
  | map (entries : List (String × Value))
  deriving Repr

instance : Inhabited Value := ⟨.null⟩

/-- Named values in order, with distinct names. -/
abbrev Fields := List (String × Value)

namespace Fields

def get? (fs : Fields) (name : String) : Option Value :=
  List.lookup name fs

/-- The value under a name; nothing stands for `null`. -/
def get (fs : Fields) (name : String) : Value :=
  (fs.get? name).getD .null

def has (fs : Fields) (name : String) : Bool :=
  (fs.get? name).isSome

/-- Puts a value under a name: in place if the name is there, else at the end. -/
def put (fs : Fields) (name : String) (v : Value) : Fields :=
  match fs with
  | [] => [(name, v)]
  | (n, w) :: r => if n = name then (n, v) :: r else (n, w) :: put r name v

/-- Puts many values, the later over the earlier. -/
def putAll (fs more : Fields) : Fields :=
  more.foldl (fun acc e => acc.put e.1 e.2) fs

@[simp] theorem get?_nil (name : String) : get? [] name = none := rfl

theorem get?_cons (n : String) (v : Value) (r : Fields) (name : String) :
    get? ((n, v) :: r) name = if name = n then some v else get? r name := by
  by_cases h : name = n
  · simp [get?, h]
  · simp [get?, List.lookup_cons, h, beq_false_of_ne h]

@[simp] theorem get?_put_self (fs : Fields) (name : String) (v : Value) :
    (fs.put name v).get? name = some v := by
  induction fs with
  | nil => simp [put, get?_cons]
  | cons e r ih =>
    obtain ⟨n, w⟩ := e
    by_cases h : n = name
    · simp [put, h, get?_cons]
    · simp [put, h, get?_cons, Ne.symm h, ih]

theorem get?_put_of_ne (fs : Fields) {n name : String} (v : Value) (h : n ≠ name) :
    (fs.put name v).get? n = fs.get? n := by
  induction fs with
  | nil => simp [put, get?_cons, h]
  | cons e r ih =>
    obtain ⟨m, w⟩ := e
    by_cases hm : m = name
    · simp [put, hm, get?_cons, h]
    · by_cases hn : n = m <;> simp [put, hm, get?_cons, hn, ih]

end Fields

/-- A mapping from its entries in writing order; a later entry takes the place of an earlier one
with the same key. -/
def Fields.ofEntries (es : List (String × Value)) : Fields :=
  Fields.putAll [] es

namespace Value

/-- The items of a list or tuple. -/
def items? : Value → Option (List Value)
  | .list xs => some xs
  | .tuple xs => some xs
  | _ => none

/-- Whether a condition on the value holds: nothing, zero and what is empty do not count. -/
def truthy : Value → Bool
  | .null => false
  | .bool b => b
  | .int n => n != 0
  | .float x => x != 0.0
  | .text s => s != ""
  | .label _ => true
  | .list xs => !xs.isEmpty
  | .tuple xs => !xs.isEmpty
  | .map es => !es.isEmpty

/-- The text of a value that is one: a string, or a word of a vocabulary. -/
def text? : Value → Option String
  | .text s => some s
  | .label l => some l.text
  | _ => none

/-- The name of a value's type, as messages give it. -/
def typeName : Value → String
  | .null => "NoneType"
  | .bool _ => "bool"
  | .int _ => "int"
  | .float _ => "float"
  | .text _ => "str"
  | .label l => l.kind
  | .list _ => "list"
  | .tuple _ => "tuple"
  | .map _ => "dict"

def texts (ss : List String) : Value :=
  .list (ss.map .text)

end Value

end Promptsmith
