import SlangSql.Vocabulary

/-!
# The standard vocabulary

The words every session starts with.
-/

set_option autoImplicit false

namespace SlangSql.Vocabulary

/-- The seed words of each operation. The first is the one shown in examples. -/
def seed : List (Operation × List String) :=
  [(.select, ["tralalero", "tralala", "tralaleritos", "troppi", "trippa"]),
   (.update, ["cappuccino", "assassino", "capuccina", "caramello"]),
   (.insert, ["bombardiro", "crocodilo", "bardiro", "bombardi"]),
   (.delete, ["bombombini", "gusini", "bomby", "bombiti"]),
   (.from, ["lirili", "larila", "lirilì", "larilà"]),
   (.where, ["patapim", "brrbrr", "brrbrius", "patapum"]),
   (.join, ["boneca", "ambalabu", "bonecus", "ambalabra"]),
   (.and, ["camelo", "frigo", "frigus", "camelus"]),
   (.or, ["vaca", "saturno", "vacus", "saturnito"]),
   (.not, ["zibra", "zubra", "zibrus", "zubralini"]),
   (.is, ["bobrito", "bandito", "bobrini", "banditi"]),
   (.null, ["girafa", "celestre", "celestra"]),
   (.beginTransaction, ["tung", "sahur"]),
   (.commit, ["ballerina", "cappuccina"]),
   (.rollback, ["chimpanzini", "banana", "chimp"]),
   (.values, ["trulimero", "valuerus", "valus"]),
   (.set, ["cocofanto", "elefanto", "cococo"]),
   (.setEqual, ["burbaloni", "lulilolli", "burburifici"]),
   (.all, ["frulli", "frulla", "frullifrullo"])]

/-- The bindings that the groups give when none of them clashes. -/
def ofGroups (groups : List (Operation × List String)) : Vocabulary :=
  ⟨groups.flatMap fun g => g.2.map fun a => ⟨Text.fold a, a, g.1⟩⟩

/-- The vocabulary of the seed words. -/
def standard : Vocabulary := ofGroups seed

end SlangSql.Vocabulary
