namespace Rbac.DatabaseUrl

def plainMarks : List String := ["postgresql://", "postgres://"]

def driverMark : String := "postgresql+psycopg://"

def forMigrations (url : String) : String :=
  match plainMarks.find? (url.startsWith ·) with
  | some mark => driverMark ++ (url.drop mark.length).toString
  | none => url

end Rbac.DatabaseUrl
