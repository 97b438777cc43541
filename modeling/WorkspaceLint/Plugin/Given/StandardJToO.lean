import WorkspaceLint.Plugin.Given.Basic

/-!
# Standard modules from J to O

The modules of the standard library whose names begin with a letter from J to O, with the names
that they provide. Long series of numeric constants are left out.
-/

namespace WorkspaceLint.GivenModule

/-- The standard modules from J to O. -/
def standardJToO : List GivenModule := [
  ⟨"json", true, "JSONDecodeError:json.decoder JSONDecoder:json.decoder JSONEncoder:json.encoder",
    "detect_encoding dump dumps load loads", ""⟩,
  ⟨"json.decoder", false, "JSONDecodeError JSONDecoder",
    "JSONArray JSONObject c_scanstring py_scanstring scanstring",
    "BACKSLASH FLAGS NaN NegInf PosInf STRINGCHUNK WHITESPACE WHITESPACE_STR"⟩,
  ⟨"json.encoder", false, "JSONEncoder c_make_encoder:_json:Encoder",
    "c_encode_basestring c_encode_basestring_ascii encode_basestring encode_basestring_ascii "
      ++ "py_encode_basestring py_encode_basestring_ascii",
    "ESCAPE ESCAPE_ASCII ESCAPE_DCT HAS_UTF8 INFINITY"⟩,
  ⟨"json.scanner", false, "c_make_scanner:_json:Scanner make_scanner:_json:Scanner",
    "py_make_scanner", "NUMBER_RE"⟩,
  ⟨"json.tool", false, "Path:pathlib", "main", ""⟩,
  ⟨"keyword", false, "", "iskeyword issoftkeyword", "kwlist softkwlist"⟩,
  ⟨"lib2to3", true, "", "", ""⟩,
  ⟨"linecache", false, "", "checkcache clearcache getline getlines lazycache updatecache", "cache"⟩,
  ⟨"locale", false, "Error",
    "atof atoi bind_textdomain_codeset bindtextdomain currency dcgettext delocalize dgettext "
      ++ "format format_string getdefaultlocale getencoding getlocale getpreferredencoding "
      ++ "gettext localeconv localize nl_langinfo normalize resetlocale setlocale str strcoll "
      ++ "strxfrm textdomain", "locale_alias locale_encoding_alias windows_locale"⟩,
  ⟨"logging", true,
    "BufferingFormatter FileHandler Filter Filterer Formatter GenericAlias:types Handler "
      ++ "LogRecord Logger LoggerAdapter Manager NullHandler PercentStyle PlaceHolder "
      ++ "RootLogger StrFormatStyle StreamHandler StringTemplateStyle Template:string",
    "addLevelName basicConfig captureWarnings critical currentframe debug disable error "
      ++ "exception fatal getLevelName getLevelNamesMapping getLogRecordFactory getLogger "
      ++ "getLoggerClass info log makeLogRecord setLogRecordFactory setLoggerClass shutdown "
      ++ "warn warning",
    "BASIC_FORMAT CRITICAL DEBUG ERROR FATAL INFO NOTSET WARN WARNING lastResort "
      ++ "logMultiprocessing logProcesses logThreads raiseExceptions root"⟩,
  ⟨"logging.config", false,
    "BaseConfigurator ConvertingDict ConvertingList ConvertingMixin ConvertingTuple "
      ++ "DictConfigurator StreamRequestHandler:socketserver ThreadingTCPServer:socketserver "
      ++ "dictConfigClass:logging.config:DictConfigurator",
    "dictConfig fileConfig listen stopListening valid_ident",
    "DEFAULT_LOGGING_CONFIG_PORT IDENTIFIER RESET_ERROR"⟩,
  ⟨"logging.handlers", false,
    "BaseRotatingHandler BufferingHandler DatagramHandler HTTPHandler MemoryHandler "
      ++ "NTEventLogHandler QueueHandler QueueListener RotatingFileHandler SMTPHandler "
      ++ "SocketHandler SysLogHandler TimedRotatingFileHandler WatchedFileHandler", "",
    "DEFAULT_HTTP_LOGGING_PORT DEFAULT_SOAP_LOGGING_PORT DEFAULT_TCP_LOGGING_PORT "
      ++ "DEFAULT_UDP_LOGGING_PORT ST_DEV ST_INO ST_MTIME SYSLOG_TCP_PORT SYSLOG_UDP_PORT"⟩,
  ⟨"lzma", false, "LZMACompressor:_lzma LZMADecompressor:_lzma LZMAError:_lzma LZMAFile",
    "compress decompress is_check_supported open",
    "CHECK_CRC32 CHECK_CRC64 CHECK_ID_MAX CHECK_NONE CHECK_SHA256 CHECK_UNKNOWN FILTER_ARM "
      ++ "FILTER_ARMTHUMB FILTER_DELTA FILTER_IA64 FILTER_LZMA1 FILTER_LZMA2 FILTER_POWERPC "
      ++ "FILTER_SPARC FILTER_X86 FORMAT_ALONE FORMAT_AUTO FORMAT_RAW FORMAT_XZ MF_BT2 MF_BT3 "
      ++ "MF_BT4 MF_HC3 MF_HC4 MODE_FAST MODE_NORMAL PRESET_DEFAULT PRESET_EXTREME"⟩,
  ⟨"mailbox", false,
    "Babyl BabylMessage Error ExternalClashError FormatError GenericAlias:types MH MHMessage "
      ++ "MMDF MMDFMessage Mailbox Maildir MaildirMessage Message NoSuchMailboxError "
      ++ "NotEmptyError mbox mboxMessage", "", "linesep"⟩,
  ⟨"mailcap", false, "UnsafeMailcapInput",
    "findmatch findparam getcaps lineno_sort_key listmailcapfiles lookup parsefield parseline "
      ++ "readmailcapfile show subst test", ""⟩,
  ⟨"marshal", false, "", "dump dumps load loads", "version"⟩,
  ⟨"math", false, "",
    "acos acosh asin asinh atan atan2 atanh cbrt ceil comb copysign cos cosh degrees dist erf "
      ++ "erfc exp exp2 expm1 fabs factorial floor fmod frexp fsum gamma gcd hypot isclose "
      ++ "isfinite isinf isnan isqrt lcm ldexp lgamma log log10 log1p log2 modf nextafter perm "
      ++ "pow prod radians remainder sin sinh sqrt tan tanh trunc ulp", "e inf nan pi tau"⟩,
  ⟨"mimetypes", false, "MimeTypes",
    "add_type guess_all_extensions guess_extension guess_type init read_mime_types",
    "common_types encodings_map inited knownfiles suffix_map types_map"⟩,
  ⟨"mmap", false, "error:builtins:OSError mmap", "", ""⟩,
  ⟨"modulefinder", false, "Module ModuleFinder", "AddPackagePath ReplacePackage test",
    "packagePathMap replacePackageMap"⟩,
  ⟨"multiprocessing", true,
    "AuthenticationError:multiprocessing.context BufferTooShort:multiprocessing.context "
      ++ "Process:multiprocessing.context ProcessError:multiprocessing.context "
      ++ "TimeoutError:multiprocessing.context", "active_children current_process parent_process",
    "Array Barrier BoundedSemaphore Condition Event JoinableQueue Lock Manager Pipe Pool Queue "
      ++ "RLock RawArray RawValue SUBDEBUG SUBWARNING Semaphore SimpleQueue Value "
      ++ "allow_connection_pickling cpu_count freeze_support get_all_start_methods get_context "
      ++ "get_logger get_start_method log_to_stderr set_executable set_forkserver_preload "
      ++ "set_start_method"⟩,
  ⟨"multiprocessing.connection", false,
    "AuthenticationError:multiprocessing.context BufferTooShort:multiprocessing.context "
      ++ "Connection ConnectionWrapper Listener SocketListener XmlListener",
    "Client Pipe SocketClient XmlClient address_type answer_challenge arbitrary_address "
      ++ "deliver_challenge rebuild_connection reduce_connection wait",
    "BUFSIZE CHALLENGE CONNECTION_TIMEOUT FAILURE MESSAGE_LENGTH WELCOME default_family families"⟩,
  ⟨"multiprocessing.context", false,
    "AuthenticationError BaseContext BufferTooShort DefaultContext ForkContext ForkProcess "
      ++ "ForkServerContext ForkServerProcess Process ProcessError SpawnContext SpawnProcess "
      ++ "TimeoutError", "assert_spawning get_spawning_popen set_spawning_popen", ""⟩,
  ⟨"multiprocessing.dummy", true,
    "Barrier:threading BoundedSemaphore:threading Condition:threading DummyProcess "
      ++ "Event:threading JoinableQueue:queue:Queue Namespace "
      ++ "Process:multiprocessing.dummy:DummyProcess Queue:queue Semaphore:threading Value "
      ++ "dict:builtins list:builtins",
    "Array Lock Manager Pipe Pool RLock active_children current_process freeze_support shutdown",
    ""⟩,
  ⟨"multiprocessing.dummy.connection", false, "Connection Listener Queue:queue", "Client Pipe",
    "families"⟩,
  ⟨"multiprocessing.forkserver", false, "ForkServer", "main read_signed write_signed",
    "MAXFDS_TO_SEND SIGNED_STRUCT connect_to_new_process ensure_running get_inherited_fds "
      ++ "set_forkserver_preload"⟩,
  ⟨"multiprocessing.heap", false, "Arena BufferWrapper Heap defaultdict:collections",
    "assert_spawning rebuild_arena reduce_arena", ""⟩,
  ⟨"multiprocessing.managers", false,
    "AcquirerProxy ArrayProxy BarrierProxy BaseListProxy BaseManager "
      ++ "BasePoolProxy:multiprocessing.managers:PoolProxy BaseProxy ConditionProxy DictProxy "
      ++ "EventProxy IteratorProxy ListProxy Namespace NamespaceProxy PoolProxy "
      ++ "ProcessError:multiprocessing.context ProcessLocalSet RemoteError Server "
      ++ "SharedMemoryManager SharedMemoryServer State SyncManager Token Value ValueProxy",
    "Array AutoProxy MakeProxyType RebuildProxy all_methods convert_to_error dispatch "
      ++ "format_exc get_spawning_popen getpid public_methods rebuild_as_list reduce_array",
    "HAS_SHMEM get_context listener_client"⟩,
  ⟨"multiprocessing.pool", false,
    "ApplyResult AsyncResult:multiprocessing.pool:ApplyResult ExceptionWithTraceback "
      ++ "IMapIterator IMapUnorderedIterator MapResult MaybeEncodingError Pool RemoteTraceback "
      ++ "ThreadPool TimeoutError:multiprocessing.context",
    "mapstar rebuild_exc starmapstar wait worker",
    "CLOSE INIT RUN TERMINATE get_context job_counter"⟩,
  ⟨"multiprocessing.popen_fork", false, "Popen", "", ""⟩,
  ⟨"multiprocessing.popen_forkserver", false, "Popen", "set_spawning_popen", ""⟩,
  ⟨"multiprocessing.popen_spawn_posix", false, "Popen", "set_spawning_popen", ""⟩,
  ⟨"multiprocessing.process", false, "AuthenticationString BaseProcess WeakSet:_weakrefset",
    "active_children current_process parent_process", ""⟩,
  ⟨"multiprocessing.queues", false,
    "Empty:_queue Finalize:multiprocessing.util Full:queue JoinableQueue Queue SimpleQueue",
    "debug info is_exiting register_after_fork", ""⟩,
  ⟨"multiprocessing.reduction", false, "ABCMeta:abc AbstractReducer ForkingPickler",
    "DupFd dump recv_handle recvfds send_handle sendfds", "ACKNOWLEDGE HAVE_SEND_HANDLE register"⟩,
  ⟨"multiprocessing.resource_sharer", false, "DupFd", "", "stop"⟩,
  ⟨"multiprocessing.resource_tracker", false, "ReentrantCallError ResourceTracker", "main",
    "ensure_running getfd register unregister"⟩,
  ⟨"multiprocessing.shared_memory", false, "ShareableList SharedMemory partial:functools", "", ""⟩,
  ⟨"multiprocessing.sharedctypes", false,
    "Synchronized SynchronizedArray SynchronizedBase SynchronizedString",
    "Array RawArray RawValue Value assert_spawning copy make_property rebuild_ctype "
      ++ "reduce_ctype synchronized",
    "class_cache get_context prop_cache template typecode_to_type"⟩,
  ⟨"multiprocessing.spawn", false, "",
    "freeze_support get_command_line get_executable get_preparation_data import_main_path "
      ++ "is_forking prepare set_executable spawn_main",
    "WINEXE WINSERVICE get_start_method old_main_modules set_start_method"⟩,
  ⟨"multiprocessing.synchronize", false,
    "Barrier BoundedSemaphore Condition Event Lock RLock SemLock Semaphore", "sem_unlink",
    "RECURSIVE_MUTEX SEMAPHORE SEM_VALUE_MAX"⟩,
  ⟨"multiprocessing.util", false, "Finalize ForkAwareLocal ForkAwareThreadLock",
    "close_all_fds_except close_fds debug get_logger get_temp_dir info "
      ++ "is_abstract_socket_namespace is_exiting log_to_stderr register_after_fork "
      ++ "spawnv_passfds sub_debug sub_warning",
    "DEBUG DEFAULT_LOGGING_FORMAT INFO LOGGER_NAME MAXFD NOTSET SUBDEBUG SUBWARNING "
      ++ "abstract_sockets_supported"⟩,
  ⟨"netrc", false, "NetrcParseError netrc", "", ""⟩,
  ⟨"nntplib", false,
    "ArticleInfo GroupInfo NNTP NNTPDataError NNTPError NNTPPermanentError NNTPProtocolError "
      ++ "NNTPReplyError NNTPTemporaryError NNTP_SSL", "decode_header", ""⟩,
  ⟨"ntpath", false, "",
    "abspath basename commonpath commonprefix dirname exists expanduser expandvars getatime "
      ++ "getctime getmtime getsize isabs isdir isfile islink ismount join lexists normcase "
      ++ "normpath realpath relpath samefile sameopenfile samestat split splitdrive splitext",
    "altsep curdir defpath devnull extsep pardir pathsep sep supports_unicode_filenames"⟩,
  ⟨"nturl2path", false, "", "pathname2url url2pathname", ""⟩,
  ⟨"numbers", false, "ABCMeta:abc Complex Integral Number Rational Real", "abstractmethod", ""⟩,
  ⟨"opcode", false, "", "stack_effect",
    "cmp_op hascompare hasconst hasfree hasjabs hasjrel haslocal hasname hasnargs opmap opname"⟩,
  ⟨"operator", false, "attrgetter itemgetter methodcaller",
    "abs add and_ call concat contains countOf delitem eq floordiv ge getitem gt iadd iand "
      ++ "iconcat ifloordiv ilshift imatmul imod imul index indexOf inv invert ior ipow irshift "
      ++ "is_ is_not isub itruediv ixor le length_hint lshift lt matmul mod mul ne neg not_ or_ "
      ++ "pos pow rshift setitem sub truediv truth xor", ""⟩,
  ⟨"optparse", false,
    "AmbiguousOptionError BadOptionError HelpFormatter IndentedHelpFormatter OptParseError "
      ++ "Option OptionConflictError OptionContainer OptionError OptionGroup OptionParser "
      ++ "OptionValueError TitledHelpFormatter Values make_option:optparse:Option",
    "check_builtin check_choice gettext ngettext", "NO_DEFAULT SUPPRESS_HELP SUPPRESS_USAGE"⟩,
  ⟨"os", false,
    "DirEntry:posix GenericAlias:types Mapping:collections.abc MutableMapping:collections.abc "
      ++ "PathLike error:builtins:OSError sched_param:posix stat_result statvfs_result "
      ++ "terminal_size times_result:posix uname_result:posix waitid_result:posix",
    "WCOREDUMP WEXITSTATUS WIFCONTINUED WIFEXITED WIFSIGNALED WIFSTOPPED WSTOPSIG WTERMSIG "
      ++ "abort access chdir chmod chown chroot close closerange confstr cpu_count ctermid "
      ++ "device_encoding dup dup2 eventfd eventfd_read eventfd_write execl execle execlp "
      ++ "execlpe execv execve execvp execvpe fchdir fchmod fchown fdatasync fdopen fork "
      ++ "forkpty fpathconf fsdecode fsencode fspath fstat fstatvfs fsync ftruncate fwalk "
      ++ "get_blocking get_exec_path get_inheritable get_terminal_size getcwd getcwdb getegid "
      ++ "getenv getenvb geteuid getgid getgrouplist getgroups getloadavg getlogin getpgid "
      ++ "getpgrp getpid getppid getpriority getresgid getresuid getsid getuid getxattr "
      ++ "initgroups isatty kill killpg lchown link listdir listxattr lockf login_tty lseek "
      ++ "lstat major makedev makedirs minor mkdir mkfifo mknod nice open openpty pathconf pipe "
      ++ "pipe2 popen posix_fadvise posix_fallocate posix_spawn posix_spawnp pread preadv "
      ++ "putenv pwrite pwritev read readlink readv register_at_fork remove removedirs "
      ++ "removexattr rename renames replace rmdir scandir sched_get_priority_max "
      ++ "sched_get_priority_min sched_getaffinity sched_getparam sched_getscheduler "
      ++ "sched_rr_get_interval sched_setaffinity sched_setparam sched_setscheduler sched_yield "
      ++ "sendfile set_blocking set_inheritable setegid seteuid setgid setgroups setpgid "
      ++ "setpgrp setpriority setregid setresgid setresuid setreuid setsid setuid setxattr "
      ++ "spawnl spawnle spawnlp spawnlpe spawnv spawnve spawnvp spawnvpe splice stat statvfs "
      ++ "strerror symlink sync sysconf system tcgetpgrp tcsetpgrp times truncate ttyname umask "
      ++ "uname unlink unsetenv urandom utime wait wait3 wait4 waitid waitpid "
      ++ "waitstatus_to_exitcode walk write writev",
    "F_OK O_APPEND O_CLOEXEC O_CREAT O_EXCL O_NDELAY O_NOCTTY O_NOFOLLOW O_NONBLOCK O_RDONLY "
      ++ "O_RDWR O_TRUNC O_WRONLY R_OK SEEK_CUR SEEK_DATA SEEK_END SEEK_HOLE SEEK_SET W_OK X_OK "
      ++ "altsep confstr_names curdir defpath devnull environ environb extsep linesep name "
      ++ "pardir path pathconf_names pathsep sep supports_bytes_environ supports_dir_fd "
      ++ "supports_effective_ids supports_fd supports_follow_symlinks sysconf_names"⟩,
  ⟨"os.path", false, "",
    "abspath basename commonpath commonprefix dirname exists expanduser expandvars getatime "
      ++ "getctime getmtime getsize isabs isdir isfile islink ismount join lexists normcase "
      ++ "normpath realpath relpath samefile sameopenfile samestat split splitdrive splitext",
    "altsep curdir defpath devnull extsep pardir pathsep sep supports_unicode_filenames"⟩,
  ⟨"ossaudiodev", false, "OSSAudioError error:ossaudiodev:OSSAudioError", "open openmixer",
    "control_labels control_names"⟩]

end WorkspaceLint.GivenModule
