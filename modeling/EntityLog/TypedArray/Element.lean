namespace EntityLog

inductive Element
  | null
  | boolean (value : Bool)
  | integer (value : Int)
  | float (bits : Nat)
  | text (value : String)
  | bytes (value : List UInt8)
  | list (items : List Element)
  | struct (items : List Element)

def Element.isNull : Element → Bool
  | null => true
  | _ => false

mutual

def Element.beq : Element → Element → Bool
  | .null, .null => true
  | .boolean a, .boolean b => a = b
  | .integer a, .integer b => a = b
  | .float a, .float b => a = b
  | .text a, .text b => a = b
  | .bytes a, .bytes b => a = b
  | .list as, .list bs => Element.beqAll as bs
  | .struct as, .struct bs => Element.beqAll as bs
  | _, _ => false

def Element.beqAll : List Element → List Element → Bool
  | [], [] => true
  | a :: as, b :: bs => a.beq b && Element.beqAll as bs
  | _, _ => false

end

mutual

theorem Element.beq_iff (a : Element) : ∀ b, a.beq b = true ↔ a = b := by
  match a with
  | .null => intro b; cases b <;> simp [Element.beq]
  | .boolean a => intro b; cases b <;> simp [Element.beq]
  | .integer a => intro b; cases b <;> simp [Element.beq]
  | .float a => intro b; cases b <;> simp [Element.beq]
  | .text a => intro b; cases b <;> simp [Element.beq]
  | .bytes a => intro b; cases b <;> simp [Element.beq]
  | .list as => intro b; cases b <;> simp [Element.beq, Element.beqAll_iff as]
  | .struct as => intro b; cases b <;> simp [Element.beq, Element.beqAll_iff as]

theorem Element.beqAll_iff (as : List Element) : ∀ bs, Element.beqAll as bs = true ↔ as = bs := by
  match as with
  | [] => intro bs; cases bs <;> simp [Element.beqAll]
  | a :: as =>
    intro bs
    cases bs <;> simp [Element.beqAll, Element.beq_iff a, Element.beqAll_iff as]

end

instance : DecidableEq Element := fun a b => decidable_of_iff _ (Element.beq_iff a b)

end EntityLog
