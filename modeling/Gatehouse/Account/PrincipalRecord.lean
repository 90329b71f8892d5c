import Gatehouse.Data.Value
import Gatehouse.Data.NameSet
import Gatehouse.Data.ToValue
/-!
Principal records: what an authorizer knows about a principal, and the groups it belongs to. Groups
hold groups; the identifiers of all of them, however deep, count.
-/

namespace Gatehouse

/-- The record of a principal. -/
structure PrincipalRecord where
  fields : Record
deriving Inhabited

namespace PrincipalRecord

instance : ToValue PrincipalRecord := ⟨fun r => .record r.fields⟩

def idKey : String := "ID"

def nameKey : String := "NAME"

def principalKey : String := "PRINCIPAL"

/-- The name space that the principal belongs to. -/
def realmKey : String := "NAMESPACE"

def firstNameKey : String := "FIRST_NAME"

def lastNameKey : String := "LAST_NAME"

def emailKey : String := "EMAIL"

def departmentKey : String := "DEPARTMENT"

def groupsKey : String := "GROUPS"

def id? (r : PrincipalRecord) : Option String := r.fields.text? idKey

def name? (r : PrincipalRecord) : Option String := r.fields.text? nameKey

def principal? (r : PrincipalRecord) : Option String := r.fields.text? principalKey

def realm? (r : PrincipalRecord) : Option String := r.fields.text? realmKey

def firstName? (r : PrincipalRecord) : Option String := r.fields.text? firstNameKey

def lastName? (r : PrincipalRecord) : Option String := r.fields.text? lastNameKey

def email? (r : PrincipalRecord) : Option String := r.fields.text? emailKey

def department? (r : PrincipalRecord) : Option String := r.fields.text? departmentKey

/-- The groups that a record holds directly. -/
def groupsOf (r : Record) : List Record := r.records groupsKey

/-- How many values a list of records is made of. -/
noncomputable def weight : List Record → Nat
  | [] => 0
  | r :: rs => sizeOf r + weight rs

@[simp] theorem weight_append (xs ys : List Record) : weight (xs ++ ys) = weight xs + weight ys := by
  induction xs with
  | nil => simp [weight]
  | cons x xs ih => simp only [List.cons_append, weight, ih, Nat.add_assoc]

theorem sizeOf_lookup_lt {k : String} {v : Value} {es : List (String × Value)}
    (h : Table.lookup k es = some v) : sizeOf v < sizeOf es := by
  have := List.sizeOf_lt_of_mem (Table.mem_keys_of_lookup h)
  simp at this
  omega

theorem weight_filterMap_le (items : List Value) :
    weight (items.filterMap Value.record?) ≤ sizeOf items := by
  induction items with
  | nil => simp [weight]
  | cons v items ih =>
    cases v <;> simp_all [weight, List.filterMap_cons, Value.record?] <;> omega

/-- The groups of a record weigh less than the record. -/
theorem weight_groupsOf_lt (r : Record) : weight (groupsOf r) < sizeOf r := by
  obtain ⟨es⟩ := r
  unfold groupsOf Record.records
  split
  · next items h =>
    have h1 := sizeOf_lookup_lt h
    have h2 := weight_filterMap_le items
    simp at h1 ⊢
    omega
  · simp only [weight, Table.mk.sizeOf_spec]
    omega

/-- Adds the identifiers of the pending groups, and of the groups inside them, to those found. A group
without an identifier is skipped but not what it holds; one that stands in several places may hold
different groups in each, so every place is visited. -/
def collectIds (found : NameSet) : List Record → NameSet
  | [] => found
  | group :: pending =>
    let found := match group.text? idKey with
      | some id => found.insert id
      | none => found
    collectIds found (groupsOf group ++ pending)
termination_by pending => weight pending
decreasing_by
  have := weight_groupsOf_lt group
  simp only [weight, weight_append]
  omega

/-- The groups that the principal belongs to directly. -/
def groups (r : PrincipalRecord) : List Record := groupsOf r.fields

/-- The identifiers of all groups that the principal belongs to. -/
def groupIds (r : PrincipalRecord) : NameSet := collectIds ∅ r.groups

/-- What a record says, by the names of its parts. -/
def summary (r : PrincipalRecord) : Record := .ofList [
  ("id", toValue r.id?),
  ("name", toValue r.name?),
  ("principal", toValue r.principal?),
  ("namespace", toValue r.realm?),
  ("first_name", toValue r.firstName?),
  ("last_name", toValue r.lastName?),
  ("email", toValue r.email?),
  ("department", toValue r.department?),
  ("groups", toValue r.groups),
  ("group_ids", toValue r.groupIds)]

end PrincipalRecord

end Gatehouse
