import RealmDriver.Dictionary

namespace RealmDriver

/-- Placement, layout, ownership, description and encryption of a volume. -/
inductive Attribute where
  | bladeset
  | recoveryPriority
  | efsa
  | volservice
  | layout
  | maxWidth
  | stripeUnit
  | rgWidth
  | rgDepth
  | user
  | group
  | userPermission
  | groupPermission
  | otherPermission
  | description
  | encryption
  deriving DecidableEq, Repr

/-- Marks a parameter or a context entry as one of this driver. -/
def driverKey (name : String) : String := "panfs.csi.vdura.com/" ++ name

namespace Attribute

def all : List Attribute :=
  [bladeset, recoveryPriority, efsa, volservice, layout, maxWidth, stripeUnit, rgWidth, rgDepth,
    user, group, userPermission, groupPermission, otherPermission, description, encryption]

theorem mem_all (a : Attribute) : a ∈ all := by cases a <;> decide

def name : Attribute → String
  | bladeset => "bladeset"
  | recoveryPriority => "recoverypriority"
  | efsa => "efsa"
  | volservice => "volservice"
  | layout => "layout"
  | maxWidth => "maxwidth"
  | stripeUnit => "stripeunit"
  | rgWidth => "rgwidth"
  | rgDepth => "rgdepth"
  | user => "user"
  | group => "group"
  | userPermission => "uperm"
  | groupPermission => "gperm"
  | otherPermission => "operm"
  | description => "description"
  | encryption => "encryption"

def key (a : Attribute) : String := driverKey a.name

def tag : Attribute → String
  | bladeset => "bladesetName"
  | recoveryPriority => "recoveryPriority"
  | layout => "raid"
  | maxWidth => "maxWidth"
  | stripeUnit => "stripeUnit"
  | rgWidth => "rgWidth"
  | rgDepth => "rgDepth"
  | a => a.name

end Attribute

/-- The two quotas of a volume: usage beyond the soft one is reported, beyond the hard one refused. -/
inductive Bound where
  | soft
  | hard
  deriving DecidableEq, Repr

namespace Bound

def name : Bound → String
  | soft => "soft"
  | hard => "hard"

def key (b : Bound) : String := driverKey b.name

def tag : Bound → String
  | soft => "softQuotaGB"
  | hard => "hardQuotaGB"

end Bound

end RealmDriver
