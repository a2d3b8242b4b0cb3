namespace RealmDriver.VolumeName

/-- The name without the slashes that a path would begin with. -/
def strip (name : String) : String := String.ofList (name.toList.dropWhile (· = '/'))

def path (name : String) : String := "/" ++ strip name

end RealmDriver.VolumeName
