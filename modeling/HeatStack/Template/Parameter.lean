import HeatStack.InputError

/-! # Parameters and outputs of a template -/
set_option autoImplicit false
namespace HeatStack.Template

def mask : String := "******"

structure Parameter where
  name : String
  type : ValueType
  label : Option String
  description : Option String
  /-- The value that counts where none is supplied. -/
  default : Option String
  /-- The value is masked wherever it is shown. -/
  hidden : Bool
  constraints : List Constraint
deriving DecidableEq

structure Output where
  name : String
  description : Option String
deriving DecidableEq

namespace Parameter

def bare (name : String) (type : ValueType) : Parameter :=
  ⟨name, type, none, none, none, false, []⟩

def displayed (p : Parameter) (value : String) : String :=
  if p.hidden then mask else value

def masked (p : Parameter) : Parameter :=
  if p.hidden then { p with default := p.default.map fun _ => mask } else p

/-- Checks a value: first that the type can read it, then the constraints in their order. -/
def check (p : Parameter) (value : String) : Except InputError Unit :=
  if !p.type.accepts value then .error (.typeMismatch p.name p.type)
  else match p.constraints.find? fun c => !c.admits p.type value with
    | some c => .error (.constraintViolated p.name c.kind c.description)
    | none => .ok ()

theorem check_eq_ok_iff (p : Parameter) (value : String) :
    p.check value = .ok () ↔
      p.type.accepts value = true ∧ ∀ c ∈ p.constraints, c.admits p.type value = true := by
  unfold check
  by_cases accepted : p.type.accepts value = true
  · cases found : p.constraints.find? fun c => !c.admits p.type value with
    | none =>
      have := List.find?_eq_none.mp found
      simp_all
    | some c =>
      have violated := List.find?_some found
      have member := List.mem_of_find?_eq_some found
      simp only [accepted, Bool.not_true, Bool.false_eq_true, if_false, reduceCtorEq, true_and,
        false_iff]
      intro all
      simp [all c member] at violated
  · simp [accepted]

end Parameter
end HeatStack.Template
