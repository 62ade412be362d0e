/-!
# Service names

The services of `src/framework/MicroServiceNames.h` which the portal calls here.
-/

namespace UserPortal

def uSERVICE_SECURITY : String := "owsec"

def uSERVICE_GATEWAY : String := "owgw"

def uSERVICE_PROVISIONING : String := "owprov"

def uSERVICE_NETWORK_TOPOLOGY : String := "nwtopology"

def uSERVICE_MANGO_PARENTAL_CONTROL : String := "mango-parental-control"

end UserPortal
