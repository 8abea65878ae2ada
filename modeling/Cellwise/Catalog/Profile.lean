import Cellwise.Catalog.FieldType
import Cellwise.Entity.Repository

/-!
# Profiles

A profile has fields of many types. Its name has to be there, whatever else is missing, and its
scores are read before anything else.
-/

namespace Cellwise

/-- A set of scores, in their order. -/
abbrev ScoreSet := Std.ExtTreeSet Int64

/-- The set of some scores. -/
def ScoreSet.ofList (scores : List Int64) : ScoreSet := Std.ExtTreeSet.ofList scores

/-- A profile. -/
structure Profile where
  uid : String
  name : String
  age : Option UInt32 := none
  money : Option Money := none
  extra : Option CanonicalJson := none
  tags : List String := []
  points : List Point := []
  scores : ScoreSet := ∅
  deriving DecidableEq

namespace Profile

/-- The table of profiles. -/
def layout : TableLayout :=
  [("name", .text), ("age", .text), ("money", .text), ("extra", .text), ("tags", .list),
    ("points", .list), ("scores", .set)].foldl
    (fun layout (name, kind) => layout.addColumn name kind) (.ofKey "profile" "uid")

/-- How profiles are saved. -/
def entity : Entity FieldType Profile where
  layout
  key profile := profile.uid
  writes profile :=
    [.key "uid" profile.uid,
      .scalar "name" FieldType.string (some profile.name),
      .scalar "age" FieldType.u32 profile.age,
      .scalar "money" FieldType.money profile.money,
      .scalar "extra" FieldType.json profile.extra,
      .list "tags" FieldType.string profile.tags,
      .list "points" FieldType.point profile.points,
      .set "scores" FieldType.i64 profile.scores.toList]
  reads := do
    let scores ← ReadPlan.getSet "scores" FieldType.i64
    let uid ← ReadPlan.getKey "uid"
    let name ← ReadPlan.getRequired "name" FieldType.string
    let age ← ReadPlan.getScalar "age" FieldType.u32
    let money ← ReadPlan.getScalar "money" FieldType.money
    let extra ← ReadPlan.getScalar "extra" FieldType.json
    let tags ← ReadPlan.getList "tags" FieldType.string
    let points ← ReadPlan.getList "points" FieldType.point
    pure { uid, name, age, money, extra, tags, points, scores := ScoreSet.ofList scores }

/-- A profile as JSON. -/
def toJson (profile : Profile) : Json :=
  .object
    [("uid", .string profile.uid),
      ("name", .string profile.name),
      ("age", .ofOption (fun n => .integer (.ofUInt32 n)) profile.age),
      ("money", .ofOption Money.toJson profile.money),
      ("extra", .ofOption (·.val) profile.extra),
      ("tags", .array (profile.tags.map .string)),
      ("points", .array (profile.points.map Point.toJson)),
      ("scores", .array (profile.scores.toList.map fun n => .integer (.ofInt64 n)))]

end Profile

end Cellwise
