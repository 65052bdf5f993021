import VulnScan.Net.Endpoint

/-! # Well-known ports

The ports that are scanned unless others are asked for, and the names of the services that
usually listen on some ports.
-/

set_option autoImplicit false

namespace VulnScan.Net

/-- The hundred ports most often found open. -/
def commonPorts : List Port :=
  [7, 9, 13, 21, 22, 23, 25, 26, 37, 53, 79, 80, 81, 88, 106, 110, 111, 113, 119, 135, 139,
   143, 144, 179, 199, 389, 427, 443, 444, 445, 465, 513, 514, 515, 543, 544, 548, 554, 587,
   631, 646, 873, 990, 993, 995, 1025, 1026, 1027, 1028, 1029, 1110, 1433, 1720, 1723, 1755,
   1900, 2000, 2001, 2049, 2121, 2717, 3000, 3128, 3306, 3389, 3986, 4899, 5000, 5009, 5051,
   5060, 5101, 5190, 5357, 5432, 5631, 5666, 5800, 5900, 6000, 6001, 6646, 7070, 8000, 8008,
   8009, 8080, 8081, 8443, 8888, 9100, 9999, 10000, 32768, 49152, 49153, 49154, 49155, 49156]

/-- The names of services by port. -/
def knownServices : List (Port × String) :=
  [(21, "ftp"), (22, "ssh"), (23, "telnet"), (25, "smtp"), (53, "domain"), (80, "http"),
   (81, "http"), (8008, "http"), (110, "pop3"), (111, "rpcbind"), (135, "msrpc"),
   (139, "netbios-ssn"), (143, "imap"), (389, "ldap"), (443, "https"), (445, "microsoft-ds"),
   (465, "smtps"), (587, "submission"), (993, "imaps"), (995, "pop3s"), (1433, "ms-sql-s"),
   (2049, "nfs"), (3000, "ppp"), (3306, "mysql"), (3389, "ms-wbt-server"), (5432, "postgresql"),
   (5900, "vnc"), (6379, "redis"), (8000, "http-alt"), (8080, "http-proxy"), (8443, "https-alt"),
   (8888, "sun-answerbook"), (9200, "elasticsearch"), (11211, "memcache"), (27017, "mongod")]

/-- The name of the service that usually listens on a port; empty if there is none. -/
def knownService (p : Port) : String := (knownServices.lookup p).getD ""

end VulnScan.Net
