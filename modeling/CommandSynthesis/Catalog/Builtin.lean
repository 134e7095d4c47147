import CommandSynthesis.Catalog.Basic

set_option autoImplicit false

/-!
# Built-in templates

Commands for the routine administration of Linux and HANA systems: file systems, logs, services,
networks and databases.
-/

namespace CommandSynthesis.Builtin

/-! ## Shared inputs -/

/-- The id of a HANA system: three capital letters. -/
def sidInput : Input where
  name := "sid"
  label := "System ID (SID)"
  required := true
  placeholder := some "HDB"
  helpText := some "Three letter SAP system id"
  validator := some (.regex "^[A-Z]\x7b3\x7d$" "SID must be exactly 3 uppercase letters")

/-- The number of a HANA instance: two digits. -/
def instanceNumberInput : Input where
  name := "instanceNumber"
  label := "Instance Number"
  defaultValue := some "00"
  placeholder := some "00"
  validator := some (.regex "^[0-9]\x7b2\x7d$" "Instance number must be exactly 2 digits")

/-! ## Filesystem -/

/-- List sizes of directories and files, sorted by size. -/
def directorySize : Template where
  id := "directory-size"
  name := "Directory Size Analysis"
  description := "List sizes of directories and files, sorted by size"
  category := "filesystem"
  text :=
    "du -hca \x7bdirectory\x7d | sort -h"
  inputs := [
    { name := "directory", label := "Directory Path", required := true,
      defaultValue := some "/", placeholder := some "/hana/shared",
      helpText := some "Absolute path to the directory you want to analyze",
      validator := some .path }]
  examples := ["du -hca '/hana/shared' | sort -h"]
  notes := [
    "This command may take time on large directories",
    "Results are sorted from smallest to largest"]

def findFiles : Template where
  id := "find-files"
  name := "Find Files by Pattern"
  description := "Search for files matching a specific pattern"
  category := "filesystem"
  text :=
    "find \x7bstartPath\x7d -type f -name \x7bpattern\x7d 2>/dev/null"
  inputs := [
    { name := "startPath", label := "Starting Path", required := true,
      defaultValue := some "/", helpText := some "Directory to start the search from",
      validator := some .path },
    { name := "pattern", label := "File Pattern", required := true,
      placeholder := some "bck_*",
      helpText := some "Use wildcards like * and ? to match file names",
      validator := some .pattern }]
  examples := ["find '/' -type f -name 'bck_*' 2>/dev/null"]
  notes := ["Errors are suppressed with 2>/dev/null"]

def largestFiles : Template where
  id := "largest-files"
  name := "Largest Files in Directory"
  description := "Find the largest files in a directory"
  category := "filesystem"
  text :=
    "find \x7bdirectory\x7d -type f -printf '%s %p\\n' | sort -nr | head -n \x7bcount\x7d | " ++
    "numfmt --field=1 --to=iec"
  inputs := [
    { name := "directory", label := "Directory Path", required := true,
      defaultValue := some "/var/log", validator := some .path },
    { name := "count", label := "Number of Files", required := true,
      defaultValue := some "10", helpText := some "How many of the largest files to show",
      validator := some (.numberRange 1 100) }]
  notes := ["Sorted from largest to smallest"]

def diskOverview : Template where
  id := "disk-overview"
  name := "Disk Usage Overview"
  description := "Show disk usage and mount points"
  category := "filesystem"
  text :=
    "df -h && echo '--- Block Devices ---' && lsblk"
  notes := ["Shows both filesystem usage and block device information"]

/-! ## Logs -/

def logSearch : Template where
  id := "log-search"
  name := "Log File Search"
  description := "Search for keywords in log files"
  category := "logs"
  text :=
    "grep -R\x7bcaseSensitive|no:i\x7dn -- \x7bkeyword\x7d \x7blogDir\x7d 2>/dev/null"
  inputs := [
    { name := "keyword", label := "Search Keyword", required := true,
      placeholder := some "ERROR", validator := some .keyword },
    { name := "logDir", label := "Log Directory", required := true,
      defaultValue := some "/var/log", validator := some .path },
    { name := "caseSensitive", label := "Case Sensitive", kind := .select,
      choices := ["no", "yes"], defaultValue := some "no",
      helpText := some "Whether the search should be case sensitive" }]
  examples := ["grep -Rin -- 'ERROR' '/var/log' 2>/dev/null"]
  notes := ["Case insensitive by default"]

/-- Extract errors, warnings or a combined timeline from a log file. -/
def logAnalyzer : Template where
  id := "log-analyzer"
  name := "Advanced Log Analyzer"
  description := "Extract errors, warnings or a combined timeline from a log file"
  category := "logs"
  text :=
    "\x7banalysisType|errors:grep -in -e error -e fatal -e critical|warnings:grep -in -e warn|" ++
    "timeline:grep -n -e error -e warn\x7d -- \x7blogFile\x7d | tail -n \x7blines\x7d"
  inputs := [
    { name := "logFile", label := "Log File Path", required := true,
      placeholder := some "/var/log/messages", validator := some .path },
    { name := "analysisType", label := "Analysis Type", kind := .select,
      choices := ["errors", "warnings", "timeline"], defaultValue := some "errors" },
    { name := "lines", label := "Lines to Show", defaultValue := some "100",
      validator := some (.numberRange 1 10000) }]

/-- Show recent journal entries for a systemd unit. -/
def serviceLogs : Template where
  id := "service-logs"
  name := "Service Journal"
  description := "Show recent journal entries for a systemd unit"
  category := "logs"
  text :=
    "journalctl -u \x7bserviceName\x7d --since \x7bsince|1h:'1 hour ago'|24h:'24 hours " ++
    "ago'|7d:'7 days ago'\x7d --no-pager -n \x7blines\x7d"
  inputs := [
    { name := "serviceName", label := "Service Name", required := true,
      placeholder := some "sapinit", validator := some .identifier },
    { name := "since", label := "Time Window", kind := .select,
      choices := ["1h", "24h", "7d"], defaultValue := some "24h" },
    { name := "lines", label := "Max Lines", defaultValue := some "200",
      validator := some (.numberRange 1 5000) }]

/-! ## System -/

def serviceStatus : Template where
  id := "service-status"
  name := "Service Status Check"
  description := "Check the status of system services"
  category := "system"
  text :=
    "systemctl status \x7bserviceName\x7d"
  inputs := [
    { name := "serviceName", label := "Service Name", required := true,
      placeholder := some "sshd", validator := some .identifier }]
  examples := ["systemctl status 'sshd'"]

def processMonitor : Template where
  id := "process-monitor"
  name := "Process Monitor"
  description := "Show top processes, optionally filtered by name"
  category := "system"
  text :=
    "ps aux --sort=-\x7bsortBy|cpu:%cpu|memory:%mem|pid:pid|time:time\x7d | grep -E -- " ++
    "\x7bprocessFilter|:.|\x7bprocessFilter\x7d\x7d | head -n 25"
  inputs := [
    { name := "processFilter", label := "Process Filter", placeholder := some "hdb",
      helpText := some "Leave empty to show all processes", validator := some .keyword },
    { name := "sortBy", label := "Sort By", kind := .select,
      choices := ["cpu", "memory", "pid", "time"], defaultValue := some "cpu" }]

def automatedHealthCheck : Template where
  id := "automated-health-check"
  name := "Automated Health Check"
  description := "Quick system health summary"
  category := "automation"
  text :=
    "uptime && free -h && df -h\x7bcheckLevel|detailed: && systemctl --failed --no-pager && " ++
    "journalctl -p err -b --no-pager -n 50\x7d"
  inputs := [
    { name := "checkLevel", label := "Check Level", kind := .select,
      choices := ["basic", "detailed"], defaultValue := some "basic" }]

/-! ## Network -/

def networkConnections : Template where
  id := "network-connections"
  name := "Network Connections"
  description := "List sockets by protocol and state"
  category := "network"
  text :=
    "ss -\x7bprotocol|tcp:t|udp:u|all:tu\x7d\x7bconnectionType|listening:l|established:|" ++
    "all:a\x7dnp\x7bconnectionType|established: state established\x7d"
  inputs := [
    { name := "connectionType", label := "Connection Type", kind := .select,
      choices := ["all", "listening", "established"], defaultValue := some "all" },
    { name := "protocol", label := "Protocol", kind := .select,
      choices := ["all", "tcp", "udp"], defaultValue := some "all" }]
  examples := ["ss -tuanp", "ss -tlnp"]

def pingHost : Template where
  id := "ping-host"
  name := "Connectivity Test"
  description := "Check reachability of a host"
  category := "network"
  text :=
    "ping -c \x7bcount\x7d -W 2 \x7bhost\x7d"
  inputs := [
    { name := "host", label := "Host", required := true, placeholder := some "google.com",
      validator := some (.regex "^[A-Za-z0-9][A-Za-z0-9.-]*$"
          "Host must be a hostname or IPv4 address") },
    { name := "count", label := "Packets", defaultValue := some "4",
      validator := some (.numberRange 1 100) }]

/-! ## HANA -/

def hanaProcesses : Template where
  id := "hana-processes"
  name := "HANA Process Check"
  description := "List running HANA server processes"
  category := "hana"
  text :=
    "ps -ef | grep -E '[h]db(nameserver|indexserver|daemon|xsengine)'"

def hanaTrace : Template where
  id := "hana-trace"
  name := "HANA Trace Files"
  description := "Follow HANA trace files of an instance"
  category := "hana"
  text :=
    "tail -f /usr/sap/\x7bsid\x7d/HDB\x7binstanceNumber\x7d/*/trace/*.trc"
  dangerLevel := .caution
  inputs := [
    sidInput,
    instanceNumberInput]
  notes := ["Runs until interrupted with Ctrl+C"]

/-- Show the most recent entries of the backup catalog. -/
def hanaBackupStatus : Template where
  id := "hana-backup-status"
  name := "HANA Backup Status"
  description := "Show the most recent entries of the backup catalog"
  category := "hana"
  text :=
    "hdbsql -i \x7binstanceNumber\x7d -d SYSTEMDB -u SYSTEM \"SELECT TOP 20 ENTRY_TYPE_NAME, " ++
    "STATE_NAME, SYS_START_TIME FROM M_BACKUP_CATALOG\x7bbackupType|data: WHERE ENTRY_TYPE_NAME " ++
    "LIKE '%data%'|log: WHERE ENTRY_TYPE_NAME = 'log backup'\x7d ORDER BY SYS_START_TIME DESC\""
  inputs := [
    instanceNumberInput,
    { name := "backupType", label := "Backup Type", kind := .select,
      choices := ["all", "data", "log"], defaultValue := some "all" }]
  notes := ["Prompts for the SYSTEM user password"]

def sapcontrolStatus : Template where
  id := "sapcontrol-status"
  name := "SAP Control Status"
  description := "Query sapstartsrv for process or instance state"
  category := "hana"
  text :=
    "sapcontrol -nr \x7binstanceNumber\x7d -function \x7bfunction|processes:GetProcessList|" ++
    "instances:GetSystemInstanceList|version:GetVersionInfo\x7d"
  inputs := [
    instanceNumberInput,
    { name := "function", label := "Query", kind := .select,
      choices := ["processes", "instances", "version"], defaultValue := some "processes" }]

/-- Check HANA system replication from the <sid>adm user. -/
def systemReplication : Template where
  id := "system-replication"
  name := "System Replication Status"
  description := "Check HANA system replication from the <sid>adm user"
  category := "hana"
  text :=
    "su - \x7bsidadm\x7d -c \x7bcheckType|replication_status:'HDBSettings.sh " ++
    "systemReplicationStatus.py'|site_info:'hdbnsutil -sr_state'\x7d"
  dangerLevel := .caution
  inputs := [
    { name := "sidadm", label := "SID Admin User", required := true,
      placeholder := some "hdbadm",
      validator := some (.regex "^[a-z][a-z0-9]\x7b2\x7dadm$"
          "Must be the <sid>adm user in lowercase, e.g. hdbadm") },
    { name := "checkType", label := "Check Type", kind := .select,
      choices := ["replication_status", "site_info"],
      defaultValue := some "replication_status" }]

/-! ## Database -/

/-- Count open connections on HANA, PostgreSQL or MySQL. -/
def connectionCount : Template where
  id := "connection-count"
  name := "Database Connection Count"
  description := "Count open connections on HANA, PostgreSQL or MySQL"
  category := "database"
  text :=
    "\x7bdbType|hana:hdbsql -i \x7binstanceNumber\x7d -d SYSTEMDB -u SYSTEM|" ++
    "postgresql:psql -U postgres -c|mysql:mysql -u root -e\x7d \"SELECT COUNT(*) FROM " ++
    "\x7bdbType|hana:M_CONNECTIONS|postgresql:pg_stat_activity|" ++
    "mysql:information_schema.PROCESSLIST\x7d\""
  inputs := [
    { name := "dbType", label := "Database Type", kind := .select,
      choices := ["hana", "postgresql", "mysql"], defaultValue := some "hana" },
    { instanceNumberInput with helpText := some "Only used for HANA" }]

/-! ## Security -/

/-- Find files with specific permissions or ownership issues. -/
def filePermissionsAudit : Template where
  id := "file-permissions-audit"
  name := "File Permissions Audit"
  description := "Find files with specific permissions or ownership issues"
  category := "security"
  text :=
    "find \x7bsearchPath\x7d -type f \x7bpermissionType|world-writable:-perm -002|setuid:-perm " ++
    "-4000|setgid:-perm -2000|no-owner:\\( -nouser -o -nogroup \\)|executable:-perm -111\x7d " ++
    "2>/dev/null | head -20"
  inputs := [
    { name := "searchPath", label := "Search Path", required := true,
      defaultValue := some "/usr/sap", validator := some .path },
    { name := "permissionType", label := "Permission Type", kind := .select,
      choices := ["world-writable", "setuid", "setgid", "no-owner", "executable"],
      defaultValue := some "world-writable" }]
  notes := [
    "Limited to 20 results",
    "May require elevated privileges for some directories"]

/-! ## Maintenance -/

def logRotationCheck : Template where
  id := "log-rotation-check"
  name := "Log Rotation Status"
  description := "Check log rotation configuration and status"
  category := "maintenance"
  text :=
    "ls -la \x7blogPath\x7d/*.log* 2>/dev/null | head -10 && echo '--- Logrotate Status ---' && " ++
    "logrotate -d /etc/logrotate.conf 2>&1 | grep -A5 -B5 -- \x7blogPath\x7d"
  inputs := [
    { name := "logPath", label := "Log Directory", required := true,
      defaultValue := some "/var/log", validator := some .path }]
  notes := ["logrotate runs in debug (dry-run) mode"]

/-- Find duplicate files based on size and checksum. -/
def duplicateFiles : Template where
  id := "duplicate-files"
  name := "Find Duplicate Files"
  description := "Find duplicate files based on size and checksum"
  category := "maintenance"
  text :=
    "find \x7bsearchPath\x7d -type f -size +\x7bminSize\x7dM -exec md5sum \x7b\x7d + " ++
    "2>/dev/null | sort | uniq -D -w32"
  dangerLevel := .caution
  inputs := [
    { name := "searchPath", label := "Search Path", required := true,
      defaultValue := some "/home", validator := some .path },
    { name := "minSize", label := "Minimum File Size (MB)", defaultValue := some "10",
      validator := some (.numberRange 1 1000) }]
  notes := ["May take significant time on large directories"]

/-! ## Monitoring -/

/-- Sample CPU, memory and IO activity for a while. -/
def systemResourceMonitor : Template where
  id := "system-resource-monitor"
  name := "System Resource Monitor"
  description := "Sample CPU, memory and IO activity for a while"
  category := "monitoring"
  text :=
    "timeout \x7bduration\x7d vmstat -w \x7binterval\x7d"
  inputs := [
    { name := "duration", label := "Monitor Duration (seconds)", defaultValue := some "60",
      validator := some (.numberRange 10 3600) },
    { name := "interval", label := "Sample Interval (seconds)", defaultValue := some "5",
      validator := some (.numberRange 1 60) }]

def containerMonitor : Template where
  id := "container-monitor"
  name := "Container Monitor"
  description := "List containers, optionally filtered by name"
  category := "monitoring"
  text :=
    "\x7bruntime|docker:docker|podman:podman\x7d ps -a\x7bcontainerFilter|:| --filter " ++
    "name=\x7bcontainerFilter\x7d\x7d"
  inputs := [
    { name := "runtime", label := "Runtime", kind := .select,
      choices := ["docker", "podman"], defaultValue := some "podman" },
    { name := "containerFilter", label := "Container Filter",
      helpText := some "Leave empty to list all containers", validator := some .identifier }]

def templates : List Template :=
  [directorySize, findFiles, largestFiles, diskOverview, logSearch, logAnalyzer, serviceLogs,
    serviceStatus, processMonitor, automatedHealthCheck, networkConnections, pingHost,
    hanaProcesses, hanaTrace, hanaBackupStatus, sapcontrolStatus, systemReplication,
    connectionCount, filePermissionsAudit, logRotationCheck, duplicateFiles, systemResourceMonitor,
    containerMonitor]

end CommandSynthesis.Builtin

namespace CommandSynthesis

def Catalog.builtin : Catalog :=
  .ofList Builtin.templates

end CommandSynthesis
