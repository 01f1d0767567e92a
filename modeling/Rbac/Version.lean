namespace Rbac

def serviceName : String := "accesscontrol"

def version : String := "0.1.0"

def versionText : String := s!"{serviceName} v{version}"

end Rbac
