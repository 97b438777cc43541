import WorkspaceLint.Plugin.Given.Basic

/-!
# Standard modules from P to S

The modules of the standard library whose names begin with a letter from P to S, with the names
that they provide. Long series of numeric constants are left out.
-/

namespace WorkspaceLint.GivenModule

/-- The standard modules from P to S. -/
def standardPToS : List GivenModule := [
  ⟨"pathlib", false,
    "Path PosixPath PurePath PurePosixPath PureWindowsPath Sequence:collections.abc WindowsPath "
      ++ "attrgetter:operator",
    "S_ISBLK S_ISCHR S_ISDIR S_ISFIFO S_ISLNK S_ISREG S_ISSOCK urlquote_from_bytes",
    "EBADF ELOOP ENOENT ENOTDIR"⟩,
  ⟨"pdb", false, "Pdb Restart",
    "find_function help lasti2lineno main pm post_mortem run runcall runctx runeval set_trace "
      ++ "test", "TESTCMD Union line_prefix"⟩,
  ⟨"pickle", false,
    "FunctionType:builtins:function PickleBuffer PickleError:_pickle Pickler:_pickle "
      ++ "PicklingError:_pickle Unpickler:_pickle UnpicklingError:_pickle islice:itertools "
      ++ "partial:functools",
    "decode_long dump dumps encode_long load loads pack unpack whichmodule",
    "PyStringMap bytes_types compatible_formats dispatch_table format_version maxsize"⟩,
  ⟨"pickletools", false, "ArgumentDescriptor OpcodeInfo StackObject",
    "decode_long dis genops optimize read_bytearray8 read_bytes1 read_bytes4 read_bytes8 "
      ++ "read_decimalnl_long read_decimalnl_short read_float8 read_floatnl read_int4 "
      ++ "read_long1 read_long4 read_string1 read_string4 read_stringnl read_stringnl_noescape "
      ++ "read_stringnl_noescape_pair read_uint1 read_uint2 read_uint4 read_uint8 "
      ++ "read_unicodestring1 read_unicodestring4 read_unicodestring8 read_unicodestringnl",
    "anyobject bytearray8 bytes1 bytes4 bytes8 bytes_types code2op decimalnl_long "
      ++ "decimalnl_short float8 floatnl int4 long1 long4 markobject opcodes pybool pybuffer "
      ++ "pybytearray pybytes pybytes_or_str pydict pyfloat pyfrozenset pyint pyinteger_or_bool "
      ++ "pylist pylong pynone pyset pystring pytuple pyunicode stackslice string1 string4 "
      ++ "stringnl stringnl_noescape stringnl_noescape_pair uint1 uint2 uint4 uint8 "
      ++ "unicodestring1 unicodestring4 unicodestring8 unicodestringnl"⟩,
  ⟨"pipes", false, "Template", "makepipeline quote",
    "FILEIN_FILEOUT FILEIN_STDOUT SINK SOURCE STDIN_FILEOUT STDIN_STDOUT stepkinds"⟩,
  ⟨"pkgutil", false,
    "ImpImporter ImpLoader ModuleInfo ModuleType:builtins:module zipimporter:zipimport",
    "extend_path find_loader get_data get_importer get_loader iter_importer_modules "
      ++ "iter_importers iter_modules iter_zipimport_modules namedtuple read_code resolve_name "
      ++ "simplegeneric walk_packages", ""⟩,
  ⟨"platform", false, "uname_result",
    "architecture freedesktop_os_release java_ver libc_ver mac_ver machine node platform "
      ++ "processor release system system_alias uname version win32_edition win32_is_iot "
      ++ "win32_ver", ""⟩,
  ⟨"plistlib", false, "BytesIO:_io InvalidFileException PlistFormat UID",
    "ParserCreate dump dumps load loads", "FMT_BINARY FMT_XML PLISTHEADER"⟩,
  ⟨"poplib", false, "POP3 POP3_SSL error_proto", "", ""⟩,
  ⟨"posix", false,
    "DirEntry error:builtins:OSError sched_param stat_result:os statvfs_result:os "
      ++ "terminal_size:os times_result uname_result waitid_result",
    "WCOREDUMP WEXITSTATUS WIFCONTINUED WIFEXITED WIFSIGNALED WIFSTOPPED WSTOPSIG WTERMSIG "
      ++ "abort access chdir chmod chown chroot close closerange confstr cpu_count ctermid "
      ++ "device_encoding dup dup2 eventfd eventfd_read eventfd_write execv execve fchdir "
      ++ "fchmod fchown fdatasync fork forkpty fpathconf fspath fstat fstatvfs fsync ftruncate "
      ++ "get_blocking get_inheritable get_terminal_size getcwd getcwdb getegid geteuid getgid "
      ++ "getgrouplist getgroups getloadavg getlogin getpgid getpgrp getpid getppid getpriority "
      ++ "getresgid getresuid getsid getuid getxattr initgroups isatty kill killpg lchown link "
      ++ "listdir listxattr lockf login_tty lseek lstat major makedev minor mkdir mkfifo mknod "
      ++ "nice open openpty pathconf pipe pipe2 posix_fadvise posix_fallocate posix_spawn "
      ++ "posix_spawnp pread preadv putenv pwrite pwritev read readlink readv register_at_fork "
      ++ "remove removexattr rename replace rmdir scandir sched_get_priority_max "
      ++ "sched_get_priority_min sched_getaffinity sched_getparam sched_getscheduler "
      ++ "sched_rr_get_interval sched_setaffinity sched_setparam sched_setscheduler sched_yield "
      ++ "sendfile set_blocking set_inheritable setegid seteuid setgid setgroups setpgid "
      ++ "setpgrp setpriority setregid setresgid setresuid setreuid setsid setuid setxattr "
      ++ "splice stat statvfs strerror symlink sync sysconf system tcgetpgrp tcsetpgrp times "
      ++ "truncate ttyname umask uname unlink unsetenv urandom utime wait wait3 wait4 waitid "
      ++ "waitpid waitstatus_to_exitcode write writev",
    "confstr_names environ pathconf_names sysconf_names"⟩,
  ⟨"posixpath", false, "",
    "abspath basename commonpath commonprefix dirname exists expanduser expandvars getatime "
      ++ "getctime getmtime getsize isabs isdir isfile islink ismount join lexists normcase "
      ++ "normpath realpath relpath samefile sameopenfile samestat split splitdrive splitext",
    "altsep curdir defpath devnull extsep pardir pathsep sep supports_unicode_filenames"⟩,
  ⟨"pprint", false, "PrettyPrinter", "isreadable isrecursive pformat pp pprint saferepr", ""⟩,
  ⟨"profile", false, "Profile", "main run runctx", ""⟩,
  ⟨"pstats", false, "FunctionProfile SortKey Stats StatsProfile StrEnum:enum TupleComp",
    "add_callers add_func_stats cmp_to_key count_calls dataclass f8 func_get_function_name "
      ++ "func_std_string func_strip_path", "Dict"⟩,
  ⟨"pty", false, "",
    "close fork master_open openpty select setraw slave_open spawn tcgetattr tcsetattr waitpid",
    "CHILD STDERR_FILENO STDIN_FILENO STDOUT_FILENO"⟩,
  ⟨"pwd", false, "struct_passwd", "getpwall getpwnam getpwuid", ""⟩,
  ⟨"py_compile", false, "PyCompileError PycInvalidationMode", "compile main", ""⟩,
  ⟨"pyclbr", false, "Class Function", "readmodule readmodule_ex", ""⟩,
  ⟨"pydoc", false,
    "Doc ErrorDuringImport HTMLDoc HTMLRepr Helper ModuleScanner Repr:reprlib TextDoc TextRepr "
      ++ "deque:collections",
    "allmethods apropos browse classify_class_attrs classname cli cram describe doc "
      ++ "format_exception_only getdoc getpager importfile isdata ispackage ispath locate pager "
      ++ "parentname pathdirs pipepager plain plainpager render_doc replace resolve safeimport "
      ++ "sort_attributes source_synopsis splitdoc stripid synopsis tempfilepager ttypager "
      ++ "visiblename writedoc writedocs", "help html plaintext text"⟩,
  ⟨"pydoc_data", true, "", "", ""⟩,
  ⟨"pyexpat", false,
    "ExpatError:xml.parsers.expat XMLParserType:pyexpat:xmlparser "
      ++ "error:xml.parsers.expat:ExpatError", "ErrorString ParserCreate",
    "expat_CAPI features native_encoding version_info"⟩,
  ⟨"queue", false,
    "Empty:_queue Full LifoQueue PriorityQueue Queue SimpleQueue:_queue deque:collections",
    "heappop heappush time", ""⟩,
  ⟨"quopri", false, "",
    "a2b_qp b2a_qp decode decodestring encode encodestring ishex main needsquoting quote unhex",
    "EMPTYSTRING ESCAPE HEX MAXLINESIZE"⟩,
  ⟨"random", false, "Random SystemRandom", "getrandbits random",
    "BPF LOG4 NV_MAGICCONST RECIP_BPF SG_MAGICCONST TWOPI betavariate choice choices "
      ++ "expovariate gammavariate gauss getstate lognormvariate normalvariate paretovariate "
      ++ "randbytes randint randrange sample seed setstate shuffle triangular uniform "
      ++ "vonmisesvariate weibullvariate"⟩,
  ⟨"re", true, "Match Pattern RegexFlag Scanner error",
    "compile escape findall finditer fullmatch match purge search split sub subn template",
    "A ASCII DEBUG DOTALL I IGNORECASE L LOCALE M MULTILINE NOFLAG S T TEMPLATE U UNICODE "
      ++ "VERBOSE X"⟩,
  ⟨"readline", false, "",
    "add_history append_history_file clear_history get_begidx get_completer "
      ++ "get_completer_delims get_completion_type get_current_history_length get_endidx "
      ++ "get_history_item get_history_length get_line_buffer insert_text parse_and_bind "
      ++ "read_history_file read_init_file redisplay remove_history_item replace_history_item "
      ++ "set_auto_history set_completer set_completer_delims "
      ++ "set_completion_display_matches_hook set_history_length set_pre_input_hook "
      ++ "set_startup_hook write_history_file", ""⟩,
  ⟨"reprlib", false, "Repr islice:itertools", "get_ident recursive_repr", "aRepr repr"⟩,
  ⟨"resource", false, "error:builtins:OSError struct_rusage",
    "getpagesize getrlimit getrusage prlimit setrlimit", ""⟩,
  ⟨"rlcompleter", false, "Completer", "get_class_members", ""⟩,
  ⟨"runpy", false, "ModuleType:builtins:module", "run_module run_path", ""⟩,
  ⟨"sched", false, "Event count:itertools scheduler", "namedtuple", ""⟩,
  ⟨"secrets", false, "SystemRandom:random",
    "compare_digest randbelow token_bytes token_hex token_urlsafe",
    "DEFAULT_ENTROPY choice randbits"⟩,
  ⟨"select", false, "epoll error:builtins:OSError", "poll select", ""⟩,
  ⟨"selectors", false,
    "ABCMeta:abc BaseSelector DefaultSelector:selectors:EpollSelector EpollSelector "
      ++ "Mapping:collections.abc PollSelector SelectSelector SelectorKey",
    "abstractmethod namedtuple", "EVENT_READ EVENT_WRITE"⟩,
  ⟨"shelve", false,
    "BsdDbShelf BytesIO:_io DbfilenameShelf Pickler:_pickle Shelf Unpickler:_pickle", "open",
    "DEFAULT_PROTOCOL"⟩,
  ⟨"shlex", false, "StringIO:_io deque:collections shlex", "join quote split", ""⟩,
  ⟨"shutil", false, "Error ExecError ReadError RegistryError SameFileError SpecialFileError",
    "chown copy copy2 copyfile copyfileobj copymode copystat copytree disk_usage "
      ++ "get_archive_formats get_terminal_size get_unpack_formats ignore_patterns make_archive "
      ++ "move register_archive_format register_unpack_format rmtree unpack_archive "
      ++ "unregister_archive_format unregister_unpack_format which", "COPY_BUFSIZE nt"⟩,
  ⟨"signal", false, "Handlers ItimerError:signal:itimer_error Sigmasks Signals struct_siginfo",
    "alarm default_int_handler getitimer getsignal pause pthread_kill pthread_sigmask "
      ++ "raise_signal set_wakeup_fd setitimer siginterrupt signal sigpending sigtimedwait "
      ++ "sigwait sigwaitinfo strsignal valid_signals", ""⟩,
  ⟨"site", false, "",
    "abs_paths addpackage addsitedir addsitepackages addusersitepackages check_enableusersite "
      ++ "enablerlcompleter execsitecustomize execusercustomize getsitepackages getuserbase "
      ++ "getusersitepackages main makepath removeduppaths sethelper setquit venv",
    "ENABLE_USER_SITE PREFIXES USER_BASE USER_SITE"⟩,
  ⟨"smtpd", false, "DebuggingServer Devnull Options PureProxy SMTPChannel SMTPServer",
    "get_addr_spec get_angle_addr parseargs usage warn",
    "COMMASPACE DATA_SIZE_DEFAULT DEBUGSTREAM NEWLINE program"⟩,
  ⟨"smtplib", false,
    "LMTP SMTP SMTPAuthenticationError SMTPConnectError SMTPDataError SMTPException "
      ++ "SMTPHeloError SMTPNotSupportedError SMTPRecipientsRefused SMTPResponseException "
      ++ "SMTPSenderRefused SMTPServerDisconnected SMTP_SSL", "encode_base64 quoteaddr quotedata",
    "bCRLF"⟩,
  ⟨"sndhdr", false, "SndHeaders",
    "get_long_be get_long_le get_short_be get_short_le namedtuple test test_8svx test_aifc "
      ++ "test_au test_hcom test_sndr test_sndt test_voc test_wav testall what whathdr", "tests"⟩,
  ⟨"socket", false,
    "AddressFamily AddressInfo IntEnum:enum IntFlag:enum MsgFlag SocketIO SocketKind "
      ++ "SocketType:_socket:socket error:builtins:OSError gaierror herror socket "
      ++ "timeout:builtins:TimeoutError",
    "CMSG_LEN CMSG_SPACE close create_connection create_server dup fromfd getaddrinfo "
      ++ "getdefaulttimeout getfqdn gethostbyaddr gethostbyname gethostbyname_ex gethostname "
      ++ "getnameinfo getprotobyname getservbyname getservbyport has_dualstack_ipv6 htonl htons "
      ++ "if_indextoname if_nameindex if_nametoindex inet_aton inet_ntoa inet_ntop inet_pton "
      ++ "ntohl ntohs recv_fds send_fds setdefaulttimeout sethostname socketpair",
    "AF_DECnet has_ipv6"⟩,
  ⟨"socketserver", false,
    "BaseRequestHandler BaseServer BufferedIOBase:io DatagramRequestHandler ForkingMixIn "
      ++ "ForkingTCPServer ForkingUDPServer StreamRequestHandler TCPServer ThreadingMixIn "
      ++ "ThreadingTCPServer ThreadingUDPServer ThreadingUnixDatagramServer "
      ++ "ThreadingUnixStreamServer UDPServer UnixDatagramServer UnixStreamServer", "time", ""⟩,
  ⟨"spwd", false, "struct_spwd", "getspall getspnam", ""⟩,
  ⟨"sqlite3", true,
    "Binary:builtins:memoryview Blob Connection Cursor DataError DatabaseError "
      ++ "Date:datetime:date Error IntegrityError InterfaceError InternalError "
      ++ "NotSupportedError OperationalError PrepareProtocol ProgrammingError Row "
      ++ "Time:datetime:time Timestamp:datetime:datetime Warning",
    "DateFromTicks TimeFromTicks TimestampFromTicks adapt complete_statement connect "
      ++ "enable_callback_tracebacks enable_shared_cache register_adapter register_converter",
    "adapters apilevel converters paramstyle sqlite_version sqlite_version_info threadsafety "
      ++ "version version_info"⟩,
  ⟨"sqlite3.dbapi2", false,
    "Binary:builtins:memoryview Blob:sqlite3 Connection:sqlite3 Cursor:sqlite3 "
      ++ "DataError:sqlite3 DatabaseError:sqlite3 Date:datetime:date Error:sqlite3 "
      ++ "IntegrityError:sqlite3 InterfaceError:sqlite3 InternalError:sqlite3 "
      ++ "NotSupportedError:sqlite3 OperationalError:sqlite3 PrepareProtocol:sqlite3 "
      ++ "ProgrammingError:sqlite3 Row:sqlite3 Time:datetime:time Timestamp:datetime:datetime "
      ++ "Warning:sqlite3",
    "DateFromTicks TimeFromTicks TimestampFromTicks adapt complete_statement connect "
      ++ "enable_callback_tracebacks enable_shared_cache register_adapter register_converter",
    "adapters apilevel converters paramstyle sqlite_version sqlite_version_info threadsafety "
      ++ "version version_info"⟩,
  ⟨"sqlite3.dump", false, "", "", ""⟩,
  ⟨"sre_compile", false, "error:re", "compile dis isstring", ""⟩,
  ⟨"sre_constants", false, "error:re", "", ""⟩,
  ⟨"sre_parse", false, "State:re._parser SubPattern:re._parser Tokenizer:re._parser error:re",
    "expand_template fix_flags parse parse_template", ""⟩,
  ⟨"ssl", false,
    "AlertDescription CertificateError:ssl:SSLCertVerificationError DefaultVerifyPaths "
      ++ "MemoryBIO:_ssl Options Purpose SSLCertVerificationError SSLContext SSLEOFError "
      ++ "SSLError SSLErrorNumber SSLObject SSLSession:_ssl SSLSocket SSLSyscallError "
      ++ "SSLWantReadError SSLWantWriteError SSLZeroReturnError TLSVersion VerifyFlags "
      ++ "VerifyMode socket:socket socket_error:builtins:OSError",
    "DER_cert_to_PEM_cert PEM_cert_to_DER_cert RAND_add RAND_bytes RAND_pseudo_bytes "
      ++ "RAND_status cert_time_to_seconds create_connection create_default_context "
      ++ "get_default_verify_paths get_protocol_name get_server_certificate match_hostname "
      ++ "namedtuple wrap_socket",
    "HAS_SSLv2 HAS_SSLv3 HAS_TLSv1 HAS_TLSv1_1 HAS_TLSv1_2 HAS_TLSv1_3 OP_NO_SSLv2 OP_NO_SSLv3 "
      ++ "OP_NO_TLSv1 OP_NO_TLSv1_1 OP_NO_TLSv1_2 OP_NO_TLSv1_3 PROTOCOL_SSLv23 PROTOCOL_TLSv1 "
      ++ "PROTOCOL_TLSv1_1 PROTOCOL_TLSv1_2"⟩,
  ⟨"stat", false, "",
    "S_IFMT S_IMODE S_ISBLK S_ISCHR S_ISDIR S_ISDOOR S_ISFIFO S_ISLNK S_ISPORT S_ISREG S_ISSOCK "
      ++ "S_ISWHT filemode", ""⟩,
  ⟨"statistics", false,
    "Counter:collections Decimal:decimal Fraction:fractions LinearRegression NormalDist "
      ++ "StatisticsError defaultdict:collections groupby:itertools repeat:itertools",
    "bisect_left bisect_right correlation covariance erf exp fabs fmean fsum geometric_mean "
      ++ "harmonic_mean hypot linear_regression log mean median median_grouped median_high "
      ++ "median_low mode mul multimode namedtuple pstdev pvariance quantiles reduce sqrt stdev "
      ++ "variance", "tau"⟩,
  ⟨"string", false, "Formatter Template", "capwords",
    "ascii_letters ascii_lowercase ascii_uppercase digits hexdigits octdigits printable "
      ++ "punctuation whitespace"⟩,
  ⟨"stringprep", false, "",
    "in_table_a1 in_table_b1 in_table_c11 in_table_c11_c12 in_table_c12 in_table_c21 "
      ++ "in_table_c21_c22 in_table_c22 in_table_c3 in_table_c4 in_table_c5 in_table_c6 "
      ++ "in_table_c7 in_table_c8 in_table_c9 in_table_d1 in_table_d2 map_table_b2 map_table_b3",
    "b1_set b3_exceptions c22_specials c6_set c7_set c8_set c9_set unicodedata"⟩,
  ⟨"struct", false, "Struct:_struct error",
    "calcsize iter_unpack pack pack_into unpack unpack_from", ""⟩,
  ⟨"subprocess", false, "CalledProcessError CompletedProcess Popen SubprocessError TimeoutExpired",
    "call check_call check_output getoutput getstatusoutput list2cmdline run",
    "DEVNULL PIPE STDOUT"⟩,
  ⟨"sunau", false, "Au_read Au_write Error", "namedtuple open", ""⟩,
  ⟨"symtable", false, "Class Function Symbol SymbolTable SymbolTableFactory", "symtable", ""⟩,
  ⟨"sys", false, "",
    "addaudithook audit breakpointhook call_tracing displayhook exc_info excepthook exception "
      ++ "exit get_asyncgen_hooks get_coroutine_origin_tracking_depth get_int_max_str_digits "
      ++ "getallocatedblocks getdefaultencoding getdlopenflags getfilesystemencodeerrors "
      ++ "getfilesystemencoding getprofile getrecursionlimit getrefcount getsizeof "
      ++ "getswitchinterval gettrace intern is_finalizing set_asyncgen_hooks "
      ++ "set_coroutine_origin_tracking_depth set_int_max_str_digits setdlopenflags setprofile "
      ++ "setrecursionlimit setswitchinterval settrace unraisablehook",
    "abiflags api_version argv base_exec_prefix base_prefix builtin_module_names byteorder "
      ++ "dont_write_bytecode exec_prefix executable flags float_info float_repr_style "
      ++ "hash_info hexversion implementation int_info maxsize maxunicode meta_path modules "
      ++ "orig_argv path path_hooks path_importer_cache platform platlibdir prefix "
      ++ "pycache_prefix stderr stdin stdlib_module_names stdout thread_info version "
      ++ "version_info warnoptions"⟩,
  ⟨"sysconfig", false, "",
    "expand_makefile_vars get_config_h_filename get_config_var get_config_vars "
      ++ "get_default_scheme get_makefile_filename get_path get_path_names get_paths "
      ++ "get_platform get_preferred_scheme get_scheme_names parse_config_h realpath", "pardir"⟩,
  ⟨"syslog", false, "", "LOG_MASK LOG_UPTO closelog openlog setlogmask syslog", ""⟩]

end WorkspaceLint.GivenModule
