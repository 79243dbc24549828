import RapidLang.Text.AsciiCase

/-!
# Built-in types, routines and data

What every module knows without declaring it. Built-in types are recognised in any letter case;
routines and data have to be spelled as they stand here.
-/

set_option autoImplicit false

namespace RapidLang

def numType : String := "num"

def boolType : String := "bool"

def stringType : String := "string"

/-- The type given to the name of a record itself. -/
def recordType : String := "record"

def builtinTypes : List String :=
  [numType, "dnum", boolType, stringType, "byte", "robtarget", "jointtarget", "tooldata",
    "wobjdata", "speeddata", "zonedata", "confdata", "orient", "pose", "pos", "loaddata",
    "robjoint", "extjoint", "errnum", "intnum", "signaldi", "signaldo", "signalai", "signalao"]

/-- The built-in type that a name spells in some letter case. -/
def builtinType? (name : String) : Option String :=
  builtinTypes.find? fun type => Text.sameWord type name

/-- The one spelling of a type: that of the built-in type, or else the name as it is. -/
def normalizeType (name : String) : String :=
  (builtinType? name).getD name

/-- The components of the built-in types that have any, with their types. -/
def builtinRecords : List (String × List (String × String)) :=
  [("pos", [("x", numType), ("y", numType), ("z", numType)]),
    ("orient", [("q1", numType), ("q2", numType), ("q3", numType), ("q4", numType)]),
    ("pose", [("trans", "pos"), ("rot", "orient")]),
    ("confdata", [("cf1", numType), ("cf4", numType), ("cf6", numType), ("cfx", numType)]),
    ("robjoint", [("rax_1", numType), ("rax_2", numType), ("rax_3", numType), ("rax_4", numType),
      ("rax_5", numType), ("rax_6", numType)]),
    ("extjoint", [("eax_a", numType), ("eax_b", numType), ("eax_c", numType), ("eax_d", numType),
      ("eax_e", numType), ("eax_f", numType)]),
    ("robtarget", [("trans", "pos"), ("rot", "orient"), ("robconf", "confdata"),
      ("extax", "extjoint")]),
    ("jointtarget", [("robax", "robjoint"), ("extax", "extjoint")]),
    ("loaddata", [("mass", numType), ("cog", "pos"), ("aom", "orient"), ("ix", numType),
      ("iy", numType), ("iz", numType)]),
    ("tooldata", [("robhold", boolType), ("tframe", "pose"), ("tload", "loaddata")]),
    ("wobjdata", [("robhold", boolType), ("ufprog", boolType), ("ufmec", stringType),
      ("uframe", "pose"), ("oframe", "pose")]),
    ("speeddata", [("v_tcp", numType), ("v_ori", numType), ("v_leax", numType),
      ("v_reax", numType)]),
    ("zonedata", [("finep", boolType), ("pzone_tcp", numType), ("pzone_ori", numType),
      ("pzone_eax", numType), ("zone_ori", numType), ("zone_leax", numType),
      ("zone_reax", numType)])]

def builtinComponents? (type : String) : Option (List (String × String)) :=
  (builtinType? type).bind fun name => builtinRecords.lookup name

/-- The built-in routines; functions come with the type of their value. -/
def builtinRoutines : List (String × Option String) :=
  [("TPWrite", none), ("TPErase", none), ("WaitTime", none), ("WaitDI", none),
    ("WaitUntil", none), ("SetDO", none), ("Set", none), ("Reset", none), ("PulseDO", none),
    ("SetAO", none), ("Stop", none), ("Exit", none), ("Break", none), ("ConfJ", none),
    ("ConfL", none), ("AccSet", none), ("VelSet", none), ("IDelete", none), ("ISignalDI", none),
    ("IEnable", none), ("IDisable", none), ("Incr", none), ("Decr", none), ("Add", none),
    ("Abs", some numType), ("Sqrt", some numType), ("Sin", some numType), ("Cos", some numType),
    ("Tan", some numType), ("ATan2", some numType), ("Round", some numType),
    ("Trunc", some numType), ("Dim", some numType), ("StrLen", some numType),
    ("DInput", some numType), ("DOutput", some numType), ("Present", some boolType),
    ("NumToStr", some stringType), ("ValToStr", some stringType), ("StrPart", some stringType),
    ("Offs", some "robtarget"), ("RelTool", some "robtarget"), ("CRobT", some "robtarget"),
    ("CJointT", some "jointtarget"), ("CPos", some "pos")]

/-- The data that the system provides, with their types. They cannot be assigned to. -/
def predefinedData : List (String × String) :=
  [("v5", "speeddata"), ("v10", "speeddata"), ("v20", "speeddata"), ("v50", "speeddata"),
    ("v100", "speeddata"), ("v150", "speeddata"), ("v200", "speeddata"), ("v300", "speeddata"),
    ("v500", "speeddata"), ("v1000", "speeddata"), ("v2000", "speeddata"),
    ("v5000", "speeddata"), ("vmax", "speeddata"), ("fine", "zonedata"), ("z0", "zonedata"),
    ("z1", "zonedata"), ("z5", "zonedata"), ("z10", "zonedata"), ("z20", "zonedata"),
    ("z50", "zonedata"), ("z100", "zonedata"), ("z200", "zonedata"), ("tool0", "tooldata"),
    ("wobj0", "wobjdata"), ("load0", "loaddata")]

end RapidLang
