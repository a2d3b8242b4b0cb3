namespace RealmDriver

inductive SystemFault where
  | notFound
  | busy
  | exists
  | notDirectory
  | isDirectory
  | invalid
  | nameTooLong
  | notEmpty
  | tooManyLinks
  /-- Something is already where a socket is to be. -/
  | addressInUse
  /-- A path holds a NUL character. -/
  | nulInPath
  /-- An argument of a program, or what is set in its environment, holds a NUL character. -/
  | nulInArgument
  /-- The path of a socket does not fit into its address. -/
  | socketPathTooLong
  /-- No directory above could be made. -/
  | noParent
  /-- No name for a new file was free. -/
  | manyNames
  /-- What else the system or its disk may say. -/
  | other (text : String)
  deriving DecidableEq, Repr

def SystemFault.message : SystemFault → String
  | .notFound => "No such file or directory (os error 2)"
  | .busy => "Device or resource busy (os error 16)"
  | .exists => "File exists (os error 17)"
  | .notDirectory => "Not a directory (os error 20)"
  | .isDirectory => "Is a directory (os error 21)"
  | .invalid => "Invalid argument (os error 22)"
  | .nameTooLong => "File name too long (os error 36)"
  | .notEmpty => "Directory not empty (os error 39)"
  | .tooManyLinks => "Too many levels of symbolic links (os error 40)"
  | .addressInUse => "Address already in use (os error 98)"
  | .nulInPath => "file name contained an unexpected NUL byte"
  | .nulInArgument => "nul byte found in provided data"
  | .socketPathTooLong => "path must be shorter than SUN_LEN"
  | .noParent => "failed to create whole tree"
  | .manyNames => "too many temporary files exist"
  | .other text => text

end RealmDriver
